import AdapterGateway.Proofs.Supervision.Course
import AdapterGateway.Proofs.Supervision.Transfer

/-!
# Relay of a document

An adapter that opens the pipe once, writes octets to it in any number of pieces, closes it and
ends is relayed: however it, the reader and the supervisor take turns, the supervisor takes exactly
those octets from the reader, and the operation delivers the document in them.
-/

namespace AdapterGateway

open Text

/-! ## What can be seen in a conversation -/

/-- The outcomes that were taken from the reader. -/
def outcomes : List Exchange → List (Except IoError Octets)
  | [] => []
  | ⟨.poll, some outcome⟩ :: t => outcome :: outcomes t
  | _ :: t => outcomes t

/-- Whether the adapter was seen to have ended. -/
def endSeen : List Exchange → Bool
  | [] => false
  | ⟨.tryWait, .ok (some _)⟩ :: _ => true
  | _ :: t => endSeen t

/-- Whether a wait was over before the reader or the adapter was seen to have come to its end. -/
def timedOut : List Exchange → Bool
  | [] => false
  | ⟨.poll, some _⟩ :: _ => false
  | ⟨.tryWait, .ok (some _)⟩ :: _ => false
  | ⟨.isOver _, true⟩ :: _ => true
  | _ :: t => timedOut t

theorem outcomes_append (t u : List Exchange) : outcomes (t ++ u) = outcomes t ++ outcomes u := by
  induction t with
  | nil => rfl
  | cons x t ih =>
    obtain ⟨question, answer⟩ := x
    cases question
    case poll => cases answer <;> simp [outcomes, ih]
    all_goals simpa [outcomes] using ih

theorem endSeen_append (t u : List Exchange) : endSeen (t ++ u) = (endSeen t || endSeen u) := by
  induction t with
  | nil => rfl
  | cons x t ih =>
    obtain ⟨question, answer⟩ := x
    cases question
    case tryWait => rcases answer with _ | _ | _ <;> simp [endSeen, ih]
    all_goals simpa [endSeen] using ih

/-- A script opens the pipe once, writes these octets in any number of pieces, closes it and ends. -/
def Script.Writes (octets : Octets) (script : Script) : Prop :=
  ∃ pieces : List Octets, pieces.flatten = octets ∧
    script.deeds = .openPipe :: (pieces.map .write ++ [.closePipe]) ∧ script.ending.isSome

/-- A script ends without opening the pipe. -/
def Script.Silent (script : Script) : Prop := script.deeds = [] ∧ script.ending.isSome

namespace Supervision

open Host

variable {b : Octets} {h h' : Host}

/-! ## What comes of each part of a course -/

/-- A knock on the pipe of an adapter that has ended leaves the octets where they are. -/
theorem carries_of_knock {opened : Bool} {t : List Exchange} {ending : ExitStatus}
    (hb : h.Carries b 0 false) (hended : h.ended = some ending)
    (ht : Interleaved h (knock opened ++ t) h') :
    ∃ next : Host, next.Carries b 0 false ∧ next.ended = some ending ∧ Interleaved next t h' := by
  have hmoved (turns : List Turn) := carries_openPipe (carries_moves hb turns)
    (by rw [ended_moves hended]; rfl)
  -- the answer tells whether the host let the pipe be opened, which leaves one case of `hmoved`
  cases opened with
  | false =>
    obtain ⟨turns, hanswer, hrest⟩ := interleaved_cons ht
    rcases hmoved turns with hshut | ⟨next, hopen, _⟩
    · have hsame : (reply .openPipe (h.moves turns)).2 = h.moves turns := congrArg Prod.snd hshut
      rw [hsame] at hrest
      exact ⟨h.moves turns, carries_moves hb turns, ended_moves hended turns, hrest⟩
    · cases (hanswer (by simp)).trans (congrArg Prod.fst hopen)
  | true =>
    obtain ⟨turns, hanswer, hrest⟩ := interleaved_cons ht
    rcases hmoved turns with hshut | ⟨next, hopen, hwriter, hsame⟩
    · cases (hanswer (by simp)).trans (congrArg Prod.fst hshut)
    · have hnext : (reply .openPipe (h.moves turns)).2 = next := congrArg Prod.snd hopen
      rw [hnext] at hrest
      obtain ⟨others, _, hlast⟩ := interleaved_cons hrest
      obtain ⟨hclosed, hkept⟩ := carries_closePipe (carries_moves hwriter others)
      refine ⟨_, hclosed, ?_, hlast⟩
      rw [hkept]
      exact ended_moves (by rw [hsame, ended_moves hended]) others

@[simp] theorem outcomes_knock (opened : Bool) (t : List Exchange) :
    outcomes (knock opened ++ t) = outcomes t := by
  cases opened <;> rfl

/-- A poll finds the reader at work, or takes all the octets. -/
theorem carries_of_poll {outcome : Option (Except IoError Octets)} {t : List Exchange}
    (hb : h.Carries b 0 false) (ht : Interleaved h (⟨.poll, outcome⟩ :: t) h') :
    ∃ (turns : List Turn) (next : Host), Interleaved next t h' ∧
      next.ended = (h.moves turns).ended ∧
      ((outcome = none ∧ next = h.moves turns) ∨
        (outcome = some (.ok b) ∧ next.Carries b 0 true)) := by
  obtain ⟨turns, hanswer, hrest⟩ := interleaved_cons ht
  have hfirst := hanswer (by simp)
  rcases carries_poll (carries_moves hb turns) with hnone | ⟨next, hsome, htaken, hsame⟩
  · have hstay : (reply .poll (h.moves turns)).2 = h.moves turns := congrArg Prod.snd hnone
    rw [hstay] at hrest
    exact ⟨turns, _, hrest, rfl, .inl ⟨hfirst.trans (congrArg Prod.fst hnone), rfl⟩⟩
  · have hnext : (reply .poll (h.moves turns)).2 = next := congrArg Prod.snd hsome
    rw [hnext] at hrest
    exact ⟨turns, next, hrest, hsame, .inr ⟨hfirst.trans (congrArg Prod.fst hsome), htaken⟩⟩

/-- The release of the reader of an adapter that has ended takes all the octets, or nothing. -/
theorem outcomes_released {t : List Exchange} {octets : Except IoError Octets} {ending : ExitStatus}
    (ht : Released t octets) (hb : h.Carries b 0 false) (hended : h.ended = some ending)
    (hi : Interleaved h t h') :
    (octets = .ok b ∧ outcomes t = [.ok b]) ∨ (octets = .error readerStuck ∧ outcomes t = []) := by
  -- each attempt closes what it opened, so the next one finds the octets as this one did
  induction ht generalizing h with
  | stuck => exact .inr ⟨rfl, rfl⟩
  | taken opened octets =>
    obtain ⟨next, hcarries, _, hpoll⟩ := carries_of_knock hb hended hi
    obtain ⟨_, _, _, _, hnone | ⟨hsome, _⟩⟩ := carries_of_poll hcarries hpoll
    · cases hnone.1
    · cases hsome
      exact .inl ⟨rfl, by rw [outcomes_knock]; rfl⟩
  | again opened _ ih =>
    obtain ⟨next, hcarries, hstill, hpoll⟩ := carries_of_knock hb hended hi
    obtain ⟨turns, _, hrest, _, ⟨_, rfl⟩ | ⟨hsome, _⟩⟩ := carries_of_poll hcarries hpoll
    · rw [outcomes_knock]
      exact ih (carries_moves hcarries turns) (ended_moves hstill turns) hrest
    · cases hsome

/-- How the wait for the octets `b` can end. -/
inductive Arrived (b : Octets) (t : List Exchange) : Except Fault Arrival → Prop where
  | delivered : outcomes t = [.ok b] → endSeen t = false → Arrived b t (.ok (.delivered (.ok b)))
  | left {ending : ExitStatus} : outcomes t = [.ok b] → endSeen t = true →
      Arrived b t (.ok (.ended ending (.ok b)))
  /-- The reader did not come to its end however often it was released. -/
  | abandoned {ending : ExitStatus} : outcomes t = [] → endSeen t = true →
      Arrived b t (.ok (.ended ending (.error readerStuck)))
  | late {seconds : Nat} : (∀ rest, timedOut (t ++ rest) = true) →
      Arrived b t (.error (.timeout seconds))

/-- A round of the wait that brought nothing changes nothing of what can be seen. -/
theorem Arrived.later {t u : List Exchange} {a : Except Fault Arrival} (ha : Arrived b t a)
    (houtcomes : outcomes (u ++ t) = outcomes t) (hend : endSeen (u ++ t) = endSeen t)
    (htimed : ∀ rest, timedOut (u ++ t ++ rest) = timedOut (t ++ rest)) : Arrived b (u ++ t) a := by
  cases ha with
  | delivered h₁ h₂ => exact .delivered (houtcomes.trans h₁) (hend.trans h₂)
  | left h₁ h₂ => exact .left (houtcomes.trans h₁) (hend.trans h₂)
  | abandoned h₁ h₂ => exact .abandoned (houtcomes.trans h₁) (hend.trans h₂)
  | late h₁ => exact .late fun rest => (htimed rest).trans (h₁ rest)

/-- A look at the adapter tells how the host stands. -/
theorem interleaved_tryWait {answer : Except IoError (Option ExitStatus)} {t : List Exchange}
    (ht : Interleaved h (⟨.tryWait, answer⟩ :: t) h') :
    ∃ turns, answer = .ok (h.moves turns).ended ∧ Interleaved (h.moves turns) t h' := by
  obtain ⟨turns, hanswer, hrest⟩ := interleaved_cons ht
  exact ⟨turns, hanswer (by simp), hrest⟩

/-- The wait for a result ends with all the octets, unless it is given up. -/
theorem arrived_of_awaited {limit : Option Nat} {t : List Exchange} {a : Except Fault Arrival}
    (ht : Awaited limit t a) (hb : h.Carries b 0 false) (hi : Interleaved h t h') :
    Arrived b t a := by
  -- on the rounds of the wait: one that brings nothing only lets the host move, and whatever moves
  -- are made the octets are still on their way
  induction ht generalizing h with
  | delivered octets =>
    obtain ⟨_, _, _, _, hnone | ⟨hsome, _⟩⟩ := carries_of_poll hb hi
    · cases hnone.1
    · cases hsome
      exact .delivered rfl rfl
  | unknown e =>
    obtain ⟨_, _, hrest, _, _⟩ := carries_of_poll hb hi
    obtain ⟨_, hanswer, _⟩ := interleaved_tryWait hrest
    cases hanswer
  | ended status hreleased =>
    obtain ⟨turns, _, hrest, _, ⟨_, rfl⟩ | ⟨hsome, _⟩⟩ := carries_of_poll hb hi
    · obtain ⟨others, hanswer, hlast⟩ := interleaved_tryWait hrest
      have hended := (Except.ok.inj hanswer).symm
      have hcarries := carries_moves (carries_moves hb turns) others
      rcases outcomes_released hreleased hcarries hended hlast with ⟨rfl, hout⟩ | ⟨rfl, hout⟩
      · exact .left hout rfl
      · exact .abandoned hout rfl
    · cases hsome
  | timeout _ => exact .late fun rest => rfl
  | unlimited _ _ ih =>
    obtain ⟨turns, _, hrest, _, ⟨_, rfl⟩ | ⟨hsome, _⟩⟩ := carries_of_poll hb hi
    · obtain ⟨others, _, hlast⟩ := interleaved_tryWait hrest
      exact (ih (carries_moves (carries_moves hb turns) others) hlast).later
        (u := [_, _]) rfl rfl fun rest => rfl
    · cases hsome
  | inTime _ _ ih =>
    obtain ⟨turns, _, hrest, _, ⟨_, rfl⟩ | ⟨hsome, _⟩⟩ := carries_of_poll hb hi
    · obtain ⟨others, _, hlast⟩ := interleaved_tryWait hrest
      obtain ⟨last, _, hover⟩ := interleaved_cons hlast
      exact (ih (carries_moves (carries_moves (carries_moves hb turns) others) last) hover).later
        (u := [_, _, _]) rfl rfl fun rest => rfl
    · cases hsome

/-- The wait for the end of an adapter tells how the adapter stands. -/
theorem ok_of_waited {milliseconds : Nat} {t : List Exchange}
    {a : Except IoError (Option ExitStatus)} (ht : Waited milliseconds t a)
    (hi : Interleaved h t h') : (∃ ending, a = .ok ending) ∧ outcomes t = [] := by
  induction ht generalizing h with
  | unknown e =>
    obtain ⟨_, hanswer, _⟩ := interleaved_tryWait hi
    cases hanswer
  | ended status => exact ⟨⟨_, rfl⟩, rfl⟩
  | passed => exact ⟨⟨_, rfl⟩, rfl⟩
  | again _ ih =>
    obtain ⟨_, _, hrest⟩ := interleaved_tryWait hi
    obtain ⟨_, _, hlast⟩ := interleaved_cons hrest
    exact ih hlast

theorem outcomes_terminated {t : List Exchange} {ending : Option ExitStatus}
    (ht : Terminated t ending) : outcomes t = [] := by
  cases ht <;> rfl

theorem endSeen_terminated {t : List Exchange} {ending : Option ExitStatus}
    (ht : Terminated t ending) : endSeen t = false := by
  cases ht <;> rfl

/-- What an operation delivers of what an adapter delivered. -/
def relayed (status : Nat) (judged : Except Fault Json.Value) : Except Fault Delivery :=
  judged.map (⟨·, status⟩)

theorem relayed_error {judged : Except Fault Json.Value} {fault : Fault}
    (h : judged = .error fault) (status : Nat) : relayed status judged = .error fault := by
  rw [h]
  rfl

theorem relayed_ok {judged : Except Fault Json.Value} {document : Json.Value}
    (h : judged = .ok document) (status : Nat) : relayed status judged = .ok ⟨document, status⟩ := by
  rw [h]
  rfl

/-- The fault of an adapter whose octets are no document.  What is wrong with them is told in the words
    of the JSON library. -/
def NoDocument (fault : Fault) : Prop :=
  ∃ words, fault = .subprocess ("adapter wrote invalid JSON: " ++ words)

/-- How an operation can relay the octets `b`: it judges them with or without having seen the adapter
    end. -/
inductive Relayed (b : Octets) (status : Nat) (t : List Exchange) : Except Fault Delivery → Prop where
  | delivered : outcomes t = [.ok b] →
      (∀ fault, judge (.delivered (.ok b)) = .error fault → endSeen t = false) →
      Relayed b status t (relayed status (judge (.delivered (.ok b))))
  | left {ending : ExitStatus} : outcomes t = [.ok b] → endSeen t = true →
      Relayed b status t (relayed status (judge (.ended ending (.ok b))))

/-- A started adapter is relayed, unless it is given up. -/
theorem relayed_of_gathered {s : SupervisionSettings} {status : Nat} {t rest : List Exchange}
    {r : Except Fault Delivery} {ending : Option ExitStatus} (ht : Gathered s status t r ending)
    (hb : h.Carries b 0 false) (hi : Interleaved h t h') (htimed : timedOut (t ++ rest) = false)
    (hcollected : outcomes t ≠ []) : Relayed b status t r := by
  cases ht with
  -- the wait brings nothing only when its time is over
  | @missing ta k u fault _ _ hawaited hterminated hreleased =>
    rw [List.append_assoc] at hi
    obtain ⟨_, hfirst, _⟩ := interleaved_append hi
    cases arrived_of_awaited hawaited hb hfirst with
    | late hlate =>
      rw [List.append_assoc, List.append_assoc, hlate] at htimed
      cases htimed
  | @unreadable ta k octets fault _ hawaited hjudge hterminated =>
    obtain ⟨_, hfirst, _⟩ := interleaved_append hi
    cases arrived_of_awaited hawaited hb hfirst with
    | delivered hout hend =>
      rw [← relayed_error hjudge status]
      refine .delivered ?_ fun _ _ => ?_
      · rw [outcomes_append, hout, outcomes_terminated hterminated]
        rfl
      · rw [endSeen_append, hend, endSeen_terminated hterminated]
        rfl
  | @leftNone _ ending octets fault hawaited hjudge =>
    cases arrived_of_awaited hawaited hb hi with
    | left hout hend =>
      rw [← relayed_error hjudge status]
      exact .left hout hend
    | abandoned hout _ => exact absurd hout hcollected
  | @left _ ending octets document hawaited hjudge =>
    cases arrived_of_awaited hawaited hb hi with
    | left hout hend =>
      rw [← relayed_ok hjudge status]
      exact .left hout hend
    | abandoned hout _ => exact absurd hout hcollected
  -- a host can always tell whether the adapter has ended
  | unknown hawaited _ hwaited =>
    obtain ⟨_, _, hlast⟩ := interleaved_append hi
    obtain ⟨⟨_, hok⟩, _⟩ := ok_of_waited hwaited hlast
    cases hok
  | @ended ta w octets document ending hawaited hjudge hwaited =>
    obtain ⟨_, hfirst, hlast⟩ := interleaved_append hi
    obtain ⟨_, hnone⟩ := ok_of_waited hwaited hlast
    cases arrived_of_awaited hawaited hb hfirst with
    | delivered hout hend =>
      rw [← relayed_ok hjudge status]
      refine .delivered ?_ fun fault hfault => ?_
      · rw [outcomes_append, hout, hnone]
        rfl
      · rw [hjudge] at hfault
        cases hfault
  | @lingering ta w k octets document _ hawaited hjudge hwaited hterminated =>
    rw [List.append_assoc] at hi
    obtain ⟨_, hfirst, hlast⟩ := interleaved_append hi
    obtain ⟨_, hwait, _⟩ := interleaved_append hlast
    obtain ⟨_, hnone⟩ := ok_of_waited hwaited hwait
    cases arrived_of_awaited hawaited hb hfirst with
    | delivered hout hend =>
      rw [← relayed_ok hjudge status]
      refine .delivered ?_ fun fault hfault => ?_
      · rw [outcomes_append, outcomes_append, hout, hnone, outcomes_terminated hterminated]
        rfl
      · rw [hjudge] at hfault
        cases hfault

/-! ## The start of an adapter -/

/-- On the host `h` an operation comes to start an adapter, which does what `script` says. -/
structure Starts (s : Settings) (inherited : Environment.Raw) (operation : String)
    (further : List String) (request : Option Request) (h : Host) (script : Script) : Prop where
  fresh : h.adapter = none
  started : ∃ arguments directory, s.commandFor operation = .ok arguments ∧
    h.makeDirectory s.supervision.channelParent = .ok directory ∧
    h.find (arguments ++ further ++ [Channel.pathIn directory])
      (Environment.build inherited s.supervision.inherited request) = .ok script

/-- A host with one program. -/
def oneProgram (script : Script) : Host :=
  { makeDirectory := fun _ => .ok "/tmp/adapter-1", programs := fun _ => .ok script }

/-- A host with a channel and no adapter. -/
def Prepared (h : Host) (programs : Launch → Except IoError Script) (c : Channel) : Prop :=
  h.programs = programs ∧ h.adapter = none ∧ h.channel = some c

variable {programs : Launch → Except IoError Script}

theorem prepared_moves {linked : Bool} (hh : Prepared h programs { linked }) (turns : List Turn) :
    Prepared (h.moves turns) programs { linked } := by
  induction turns generalizing h with
  | nil => exact hh
  | cons turn turns ih =>
    obtain ⟨hprograms, hadapter, hchannel⟩ := hh
    refine ih ?_
    cases turn with
    | reader more =>
      refine ⟨hprograms, hadapter, ?_⟩
      simp only [move, hchannel, Option.map_some]
      rfl
    | adapter =>
      simp only [move, hadapter]
      exact ⟨hprograms, hadapter, hchannel⟩

/-- Without an adapter the reader waits at most for a writer. -/
theorem waiting_moves {reader : PipeReader} (hreader : reader = .starting ∨ reader = .waiting)
    (hh : Prepared h programs { reader := some reader }) (turns : List Turn) :
    ∃ later : PipeReader, (later = .starting ∨ later = .waiting) ∧
      Prepared (h.moves turns) programs { reader := some later } := by
  -- one move of the reader takes it to its wait, and no other move takes it further
  induction turns generalizing h reader with
  | nil => exact ⟨reader, hreader, hh⟩
  | cons turn turns ih =>
    obtain ⟨hprograms, hadapter, hchannel⟩ := hh
    cases turn with
    | reader more =>
      have hwaiting : Prepared (h.move (.reader more)) programs { reader := some .waiting } := by
        refine ⟨hprograms, hadapter, ?_⟩
        simp only [move, hchannel, Option.map_some]
        rcases hreader with rfl | rfl <;> rfl
      exact ih (.inr rfl) hwaiting
    | adapter =>
      refine ih hreader ?_
      simp only [move, hadapter]
      exact ⟨hprograms, hadapter, hchannel⟩

theorem adapter_moves (hadapter : h.adapter = none) (turns : List Turn) :
    (h.moves turns).adapter = none := by
  induction turns generalizing h with
  | nil => exact hadapter
  | cons turn turns ih =>
    refine ih ?_
    cases turn with
    | reader more => exact hadapter
    | adapter => simp only [move, hadapter]

theorem reply_makeDirectory {parent : Option String} {directory : String}
    (hadapter : h.adapter = none) (hmake : h.makeDirectory parent = .ok directory)
    (turns : List Turn) :
    ∃ next : Host, reply (.makeDirectory parent) (h.moves turns) = (.ok directory, next) ∧
      Prepared next h.programs { linked := false } := by
  refine ⟨{ h.moves turns with channel := some { linked := false } }, ?_, programs_moves h turns,
    adapter_moves hadapter turns, rfl⟩
  simp only [reply, makeDirectory_moves, hmake]

theorem reply_makePipe (hh : Prepared h programs { linked := false }) (path : String)
    (turns : List Turn) :
    ∃ next : Host, reply (.makePipe path) (h.moves turns) = (.ok (), next) ∧
      Prepared next programs {} := by
  obtain ⟨hprograms, hadapter, hchannel⟩ := prepared_moves hh turns
  refine ⟨_, rfl, hprograms, hadapter, ?_⟩
  simp only [hchannel, Option.map_some]

theorem reply_startReader (hh : Prepared h programs {}) (turns : List Turn) :
    ∃ next : Host, reply .startReader (h.moves turns) = (.ok (), next) ∧
      Prepared next programs { reader := some .starting } := by
  obtain ⟨hprograms, hadapter, hchannel⟩ := prepared_moves hh turns
  refine ⟨_, rfl, hprograms, hadapter, ?_⟩
  simp only [hchannel, Option.map_some]
  rfl

/-- A host on which the adapter has been started and has done nothing yet. -/
def Launched (h : Host) (script : Script) : Prop :=
  ∃ reader : PipeReader, (reader = .starting ∨ reader = .waiting) ∧
    h.channel = some { reader := some reader } ∧ h.adapter = some { script }

theorem reply_spawn {arguments : List String} {environment : Environment} {script : Script}
    (hh : Prepared h programs { reader := some .starting })
    (hfind : h.find arguments environment = .ok script) (turns : List Turn) :
    ∃ next : Host, reply (.spawn arguments environment) (h.moves turns) = (.ok (), next) ∧
      Launched next script := by
  obtain ⟨reader, hreader, hprograms, hadapter, hchannel⟩ := waiting_moves (.inl rfl) hh turns
  have hsame : ({ h.moves turns with spawned := (h.moves turns).spawned + 1 } : Host).programs =
      h.programs := programs_moves h turns
  have hfound := (find_congr hsame arguments environment).trans hfind
  refine ⟨{ h.moves turns with
    spawned := (h.moves turns).spawned + 1, adapter := some { script } }, ?_, reader, hreader,
    hchannel, rfl⟩
  simp only [reply, start, hfound]

theorem carries_of_writes {script : Script} (hscript : script.Writes b)
    (hh : Launched h script) : h.Carries b 0 false := by
  obtain ⟨reader, hreader, hchannel, hadapter⟩ := hh
  obtain ⟨pieces, hpieces, hdeeds, hending⟩ := hscript
  obtain ⟨deeds, ending, streams⟩ := script
  obtain ⟨status, rfl⟩ := Option.isSome_iff_exists.mp hending
  cases hdeeds
  exact ⟨_, _, hchannel, hadapter, .opening hreader hpieces⟩

theorem carries_of_silent {script : Script} (hscript : script.Silent) (hh : Launched h script) :
    h.Carries [] 0 false := by
  obtain ⟨reader, hreader, hchannel, hadapter⟩ := hh
  obtain ⟨hdeeds, hending⟩ := hscript
  obtain ⟨deeds, ending, streams⟩ := script
  obtain ⟨status, rfl⟩ := Option.isSome_iff_exists.mp hending
  cases hdeeds
  exact ⟨_, _, hchannel, hadapter, .silent hreader rfl⟩

/-- An interleaving that begins with a question which every host of the kind answers alike. -/
theorem interleaved_reply {P : Host → Prop} {question : Call} {answer expected : question.Answer}
    {t : List Exchange} (hquestion : ∀ milliseconds, question ≠ .isOver milliseconds)
    (hreply : ∀ turns, ∃ next, reply question (h.moves turns) = (expected, next) ∧ P next)
    (hi : Interleaved h (⟨question, answer⟩ :: t) h') :
    answer = expected ∧ ∃ next, Interleaved next t h' ∧ P next := by
  obtain ⟨turns, hanswer, hrest⟩ := interleaved_cons hi
  obtain ⟨next, hnext, hp⟩ := hreply turns
  rw [hnext] at hanswer hrest
  exact ⟨hanswer hquestion, next, hrest, hp⟩

/-- Once everything is prepared in the directory that the host makes, the adapter is started. -/
theorem interleaved_opening {s : Settings} {inherited : Environment.Raw}
    {arguments further : List String} {request : Option Request} {script : Script}
    {made directory : String} {answer : Except Fault Unit} {t : List Exchange}
    (hadapter : h.adapter = none)
    (hmake : h.makeDirectory s.supervision.channelParent = .ok directory)
    (hfind : h.find (arguments ++ further ++ [Channel.pathIn directory])
      (Environment.build inherited s.supervision.inherited request) = .ok script)
    (hi : Interleaved h (opening s made ++
      ⟨launch s inherited arguments further request made, answer⟩ :: t) h') :
    answer = .ok () ∧ ∃ next : Host, Interleaved next t h' ∧ Launched next script := by
  obtain ⟨hmade, first, hfirst, hprepared⟩ :=
    interleaved_reply (by simp) (reply_makeDirectory hadapter hmake) hi
  obtain ⟨_, second, hsecond, hpiped⟩ :=
    interleaved_reply (by simp) (reply_makePipe hprepared _) hfirst
  obtain ⟨_, third, hthird, hreading⟩ :=
    interleaved_reply (by simp) (reply_startReader hpiped) hsecond
  -- the directory of the conversation is the one that the host makes
  cases hmade
  have hfound := (find_congr hreading.1 _ _).trans hfind
  exact interleaved_reply (by simp) (reply_spawn hreading hfound) hthird

theorem Relayed.congr {status : Nat} {t u : List Exchange} {r : Except Fault Delivery}
    (hr : Relayed b status t r) (hout : outcomes u = outcomes t) (hend : endSeen u = endSeen t) :
    Relayed b status u r := by
  cases hr with
  | delivered h₁ h₂ =>
    exact .delivered (hout.trans h₁) fun fault hfault => hend.trans (h₂ fault hfault)
  | left h₁ h₂ => exact .left (hout.trans h₁) (hend.trans h₂)

/-- What is seen in the part of a conversation with the adapter is what is seen in all of it. -/
structure Shows (t u rest : List Exchange) : Prop where
  outcomes_eq : outcomes t = outcomes u
  endSeen_eq : endSeen t = endSeen u
  timedOut_eq : timedOut t = timedOut (u ++ rest)

theorem shows_started {s : Settings} {inherited : Environment.Raw}
    {arguments further : List String} {request : Option Request} {directory : String}
    {u k : List Exchange} {streams : Streams} {ending : Option ExitStatus} (hk : GivenUp ending k) :
    Shows (opening s directory ++ ⟨launch s inherited arguments further request directory, .ok ()⟩ ::
        (u ++ [⟨.capture, streams⟩, ⟨.removeDirectory, ()⟩] ++ k))
      u ([⟨.capture, streams⟩, ⟨.removeDirectory, ()⟩] ++ k) where
  outcomes_eq := by
    have hout : outcomes k = [] := by
      cases hk with
      | ended status => rfl
      | killed hterminated => exact outcomes_terminated hterminated
    change outcomes (u ++ [⟨.capture, streams⟩, ⟨.removeDirectory, ()⟩] ++ k) = outcomes u
    rw [outcomes_append, outcomes_append, hout]
    exact (List.append_nil _).trans (List.append_nil _)
  endSeen_eq := by
    have hend : endSeen k = false := by
      cases hk with
      | ended status => rfl
      | killed hterminated => exact endSeen_terminated hterminated
    change endSeen (u ++ [⟨.capture, streams⟩, ⟨.removeDirectory, ()⟩] ++ k) = endSeen u
    rw [endSeen_append, endSeen_append, hend]
    exact (Bool.or_false _).trans (Bool.or_false _)
  timedOut_eq := by
    rw [← List.append_assoc]
    rfl

/-- On a host where it comes to start an adapter, an operation has one part with the adapter. -/
theorem gathered_of_course {s : Settings} {inherited : Environment.Raw} {operation : String}
    {further : List String} {request : Option Request} {status : Nat} {t : List Exchange}
    {r : Except Fault Delivery} {script : Script}
    (hs : Starts s inherited operation further request h script)
    (ht : Course s inherited operation further request status t r) (hi : Interleaved h t h') :
    ∃ u rest ending next later, Gathered s.supervision status u r ending ∧ Shows t u rest ∧
      Launched next script ∧ Interleaved next u later := by
  obtain ⟨arguments, directory, hwords, hmake, hfind⟩ := hs.started
  -- every other course has an answer that this host does not give
  cases ht with
  | unresolved hnone => cases hnone.symm.trans hwords
  | noDirectory e _ =>
    obtain ⟨hmade, _⟩ := interleaved_reply (by simp) (reply_makeDirectory hs.fresh hmake) hi
    cases hmade
  | noPipe made reason _ =>
    obtain ⟨_, first, hfirst, hprepared⟩ :=
      interleaved_reply (by simp) (reply_makeDirectory hs.fresh hmake) hi
    obtain ⟨hpiped, _⟩ := interleaved_reply (by simp) (reply_makePipe hprepared _) hfirst
    cases hpiped
  | noReader made e _ =>
    obtain ⟨_, first, hfirst, hprepared⟩ :=
      interleaved_reply (by simp) (reply_makeDirectory hs.fresh hmake) hi
    obtain ⟨_, second, hsecond, hpiped⟩ :=
      interleaved_reply (by simp) (reply_makePipe hprepared _) hfirst
    obtain ⟨hreading, _⟩ := interleaved_reply (by simp) (reply_startReader hpiped) hsecond
    cases hreading
  | notStarted made hwords' _ =>
    cases hwords'.symm.trans hwords
    obtain ⟨hstarted, _⟩ := interleaved_opening hs.fresh hmake hfind hi
    cases hstarted
  | @started words made u k r ending streams hwords' hgathered hgiven =>
    cases hwords'.symm.trans hwords
    obtain ⟨_, next, hnext, hlaunched⟩ := interleaved_opening hs.fresh hmake hfind hi
    rw [List.append_assoc] at hnext
    obtain ⟨later, hgather, _⟩ := interleaved_append hnext
    exact ⟨u, _, ending, next, later, hgathered, shows_started hgiven, hlaunched, hgather⟩

/-- An operation relays the octets of the adapter that it starts, unless it gives the adapter or the
    reader up. -/
theorem relayed_of_course {s : Settings} {inherited : Environment.Raw} {operation : String}
    {further : List String} {request : Option Request} {status : Nat} {t : List Exchange}
    {r : Except Fault Delivery} {script : Script}
    (hs : Starts s inherited operation further request h script)
    (hscript : ∀ next : Host, Launched next script → next.Carries b 0 false)
    (ht : Course s inherited operation further request status t r) (hi : Interleaved h t h')
    (htimed : timedOut t = false) (hcollected : outcomes t ≠ []) : Relayed b status t r := by
  obtain ⟨u, rest, ending, next, later, hgathered, hshows, hlaunched, hgather⟩ :=
    gathered_of_course hs ht hi
  rw [hshows.timedOut_eq] at htimed
  rw [hshows.outcomes_eq] at hcollected
  exact (relayed_of_gathered hgathered (hscript next hlaunched) hgather htimed hcollected).congr
    hshows.outcomes_eq hshows.endSeen_eq

end Supervision

end AdapterGateway
