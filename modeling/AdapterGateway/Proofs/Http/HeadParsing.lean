import AdapterGateway.Proofs.Http.Framing
import AdapterGateway.Proofs.Occurrence
import AdapterGateway.Proofs.Text.Utf8
import Mathlib.Data.List.Basic

/-!
# Parsing heads

A head that was written out of a method, a target and header lines is parsed into them again, and
what is looked up in it is the last of the header lines that the name stands for.  No other head is
refused than one whose first line has no two words.
-/

namespace AdapterGateway.Http

open Text

/-! ## Heads as they are written -/

/-- What a head is written out of. -/
structure WrittenHead where
  method : String
  target : String
  /-- What stands on the first line behind the target and a space, if there is anything. -/
  further : Option String
  /-- The header lines, each with what stands on both sides of its first colon. -/
  fields : List (String × String)
  isWord_method : IsWord method
  isWord_target : IsWord target
  unbroken_further : ∀ s ∈ further, Unbroken s
  unbroken_fields : ∀ f ∈ fields, ':' ∉ f.1.toList ∧ Unbroken f.1 ∧ Unbroken f.2

namespace WrittenHead

def requestLine (w : WrittenHead) : String :=
  w.method ++ " " ++ w.target ++ w.further.elim "" (" " ++ ·)

def fieldLine (f : String × String) : String := f.1 ++ ":" ++ f.2

/-- The head, without the mark that ends it. -/
def text (w : WrittenHead) : String := "\r\n".intercalate (w.requestLine :: w.fields.map fieldLine)

theorem isLine_requestLine (w : WrittenHead) : IsLine w.requestLine := by
  have htarget : IsLine (w.method ++ " " ++ w.target) :=
    (w.isWord_method.isLine.append (by decide)).append w.isWord_target.isLine.2
  apply htarget.append
  cases hfurther : w.further with
  | none => exact (by decide : Unbroken "")
  | some s => exact Unbroken.append (by decide) (w.unbroken_further s hfurther)

theorem isLine_fieldLine (w : WrittenHead) {f : String × String} (hf : f ∈ w.fields) :
    IsLine (fieldLine f) := by
  obtain ⟨_, hname, hvalue⟩ := w.unbroken_fields f hf
  exact (hname.append_isLine (by decide)).append hvalue

theorem isLine_lines (w : WrittenHead) :
    ∀ line ∈ w.requestLine :: w.fields.map fieldLine, IsLine line := by
  rw [List.forall_mem_cons, List.forall_mem_map]
  exact ⟨w.isLine_requestLine, fun f hf => w.isLine_fieldLine hf⟩

theorem exists_words_requestLine (w : WrittenHead) :
    ∃ others, words w.requestLine = w.method :: w.target :: others := by
  unfold requestLine
  cases w.further with
  | none =>
    refine ⟨[], ?_⟩
    rw [Option.elim_none, String.append_empty, words_append w.isWord_method,
      words_of_isWord w.isWord_target]
  | some s =>
    refine ⟨words s, ?_⟩
    have hassoc : w.method ++ " " ++ w.target ++ (" " ++ s) =
        w.method ++ " " ++ (w.target ++ " " ++ s) := by
      simp only [String.append_assoc]
    rw [Option.elim_some, hassoc, words_append w.isWord_method, words_append w.isWord_target]

theorem filterMap_headerOf? (w : WrittenHead) :
    (w.fields.map fieldLine).filterMap Request.headerOf? =
      w.fields.map fun f => (lower (trim f.1), trim f.2) := by
  rw [List.filterMap_map, ← List.filterMap_eq_map]
  apply List.filterMap_congr
  intro f hf
  exact headerOf?_append (w.unbroken_fields f hf).1 f.2

end WrittenHead

theorem pathOf_eq (target : String) :
    Request.pathOf target = String.ofList (target.toList.takeWhile (· != '?')) := by
  unfold Request.pathOf splitFirst
  cases hdrop : target.toList.dropWhile (· != '?') with
  | cons mark after => rfl
  | nil =>
    -- without a question mark all of the target is the path
    have hall : target.toList.takeWhile (· != '?') = target.toList := by
      have hboth := List.takeWhile_append_dropWhile (p := (· != '?')) (l := target.toList)
      rwa [hdrop, List.append_nil] at hboth
    rw [hall, String.ofList_toList]

/-! ## Heads that are refused -/

/-- A place that a list does not have. -/
structure OutOfRange where
  place : Nat
  length : Nat

/-- What stands at a place, or the failure of taking it. -/
def at? {α : Type} (l : List α) (place : Nat) : Except OutOfRange α :=
  match l[place]? with
  | some a => .ok a
  | none => .error ⟨place, l.length⟩

namespace Request

/-- The parsing of a head as a program that counts the words of the first line and then takes two of
    them by their places. -/
def ofHeadByPlace (head : String) (client : Option Net.Endpoint) :
    Except OutOfRange (Option Request) :=
  match lines head with
  | [] => return none
  | first :: fields => do
    let parts := words first
    if parts.length < 2 then
      return none
    let method ← at? parts 0
    let target ← at? parts 1
    return some {
      method := upper method
      path := pathOf target
      headers := Dictionary.ofList ((fields.takeWhile (!·.isEmpty)).filterMap headerOf?)
      client }

/-- The count keeps every place that is taken within the line. -/
theorem ofHeadByPlace_eq (head : String) (client : Option Net.Endpoint) :
    ofHeadByPlace head client = .ok (ofHead? head client) := by
  unfold ofHeadByPlace ofHead?
  cases lines head with
  | nil => rfl
  | cons first fields =>
    dsimp only
    cases words first with
    | nil => rfl
    | cons method others =>
      cases others with
      | nil => rfl
      | cons target others =>
        have hcount : ¬ (method :: target :: others).length < 2 := by
          rw [List.length_cons, List.length_cons]
          omega
        rw [if_neg hcount]
        rfl

theorem ofHead?_eq_none_iff (head : String) (client : Option Net.Endpoint) :
    ofHead? head client = none ↔ ∀ line ∈ (lines head).head?, (words line).length < 2 := by
  unfold ofHead?
  cases lines head with
  | nil => simp
  | cons first fields =>
    cases hwords : words first with
    | nil => simp [hwords]
    | cons method others =>
      cases others with
      | nil => simp [hwords]
      | cons target others => simp [hwords]

end Request

/-! ## Parsing -/

/-- What `r` says of a written head. -/
structure WrittenHead.ParsedAs (w : WrittenHead) (client : Option Net.Endpoint) (r : Request) :
    Prop where
  method : r.method = upper w.method
  /-- The target up to its first question mark, or all of it. -/
  path : r.path = String.ofList (w.target.toList.takeWhile (· != '?'))
  /-- The last line with the name counts, blanks around it and case left aside. -/
  header : ∀ name value, r.header? name = some value ↔
    ∃ f, IsLast (fun f => lower (trim f.1) = lower name) w.fields f ∧ trim f.2 = value
  absent : ∀ name, r.header? name = none ↔ ∀ f ∈ w.fields, lower (trim f.1) ≠ lower name
  body : r.body = none
  client : r.client = client

theorem WrittenHead.exists_parsedAs (w : WrittenHead) (client : Option Net.Endpoint) :
    ∃ r, Request.ofHead? w.text client = some r ∧ w.ParsedAs client r := by
  obtain ⟨others, hwords⟩ := w.exists_words_requestLine
  have hlines : lines w.text = w.requestLine :: w.fields.map fieldLine :=
    lines_intercalate w.isLine_lines
  have hfields : ((w.fields.map fieldLine).takeWhile (!·.isEmpty)).filterMap Request.headerOf? =
      w.fields.map fun f => (lower (trim f.1), trim f.2) := by
    rw [takeWhile_not_isEmpty (List.forall_mem_cons.mp w.isLine_lines).2, w.filterMap_headerOf?]
  unfold Request.ofHead?
  rw [hlines]
  dsimp only
  rw [hwords, hfields]
  refine ⟨_, rfl, {
    method := rfl
    path := pathOf_eq w.target
    header := fun name value => ?_
    absent := fun name => ?_
    body := rfl
    client := rfl }⟩
  · rw [Request.header?, Dictionary.get?_ofList, lastValue?_map_eq_some_iff]
  · rw [Request.header?, Dictionary.get?_ofList, lastValue?_map_eq_none_iff]

/-- **Heads are parsed into what they were written out of.**  A head is refused only if its first
    line has fewer than two words, and no head makes the parser take a word that is not there. -/
theorem heads_parsed (client : Option Net.Endpoint) :
    (∀ w : WrittenHead, ∃ r, Request.ofHead? w.text client = some r ∧ w.ParsedAs client r) ∧
      ∀ head,
        (Request.ofHead? head client = none ↔
          ∀ line ∈ (lines head).head?, (words line).length < 2) ∧
        Request.ofHeadByPlace head client = .ok (Request.ofHead? head client) :=
  ⟨fun w => w.exists_parsedAs client,
    fun head => ⟨Request.ofHead?_eq_none_iff head client, Request.ofHeadByPlace_eq head client⟩⟩

-- Of two lines with one name the last counts, and the colons of its value stay.
example : ∃ w : WrittenHead, w.fields = [("Host", " one"), ("HOST ", " two:3")] ∧
    (Request.ofHead? w.text none).bind (·.header? "host") = some "two:3" :=
  ⟨{ method := "get"
     target := "/a?b"
     further := none
     fields := [("Host", " one"), ("HOST ", " two:3")]
     isWord_method := ⟨by decide, forall_mem_of_all (by decide)⟩
     isWord_target := ⟨by decide, forall_mem_of_all (by decide)⟩
     unbroken_further := fun _ h => nomatch h
     unbroken_fields := by decide }, rfl, by decide +kernel⟩

end AdapterGateway.Http
