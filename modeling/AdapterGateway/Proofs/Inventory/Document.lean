import AdapterGateway.Json.Value
import AdapterGateway.Proofs.Inventory.Keys
import AdapterGateway.Proofs.Inventory.Survey
import Mathlib.Data.List.Forall2

/-!
# Documents

The document of a collection against the survey that filled it: the instances that it took, in the
order in which it took them, and their edges to children.  At the far end of an edge stands the key
of the stored instance, where there is one of that identity.  At the near end only the edges of the
stored instance itself are told, and none of another instance of its identity.
-/

namespace AdapterGateway.Inventory

open Json

namespace Graph

theorem hasChildren_eq {g : Graph} {links : List (Handle × Handle)} (hg : g.Holds links)
    (h : Handle) : g.hasChildren h = links.any (·.1.sameInstance h) := by
  have hkeys := hg.lists_children h
  have hempty : g.hasChildren h = !(g.children h).isEmpty := by
    rw [hasChildren, children, Dictionary.isEmpty, Dictionary.values, List.isEmpty_map]
  rw [hempty, Bool.eq_iff_iff, Bool.not_eq_true', List.isEmpty_eq_false_iff_exists_mem,
    List.any_eq_true]
  constructor
  · rintro ⟨key, hmem⟩
    obtain ⟨l, hl, hsame, _⟩ := (hkeys.mem_iff key.identity).mp (List.mem_map_of_mem hmem)
    exact ⟨l, hl, hsame⟩
  · rintro ⟨l, hl, hsame⟩
    obtain ⟨key, hmem, _⟩ := List.mem_map.mp ((hkeys.mem_iff l.2.identity).mpr ⟨l, hl, hsame, rfl⟩)
    exact ⟨key, hmem⟩

end Graph

/-! ## Resolved edges -/

namespace Collection

variable {c : Collection} {accepted : List Handle}

theorem InStep.identity_resolve (hc : c.InStep accepted) (key : Key) :
    (c.resolve key).identity = key.identity := by
  unfold resolve get?
  split
  · rename_i h hfind
    exact hc.identity_eq key.identity h hfind
  · rfl

/-- Far ends stay the same instances when their keys are resolved. -/
theorem InStep.lists_resolve (hc : c.InStep accepted) {links : List (Handle × Handle)} {h : Handle}
    {latest : Identity → Option Key} {keys : List Key} (hkeys : Lists links h latest keys) :
    Lists links h (fun identity => ((c.find? identity).map Handle.key).or (latest identity))
      (keys.map c.resolve) := by
  have hidentities : (keys.map c.resolve).map Key.identity = keys.map Key.identity := by
    rw [List.map_map]
    exact List.map_congr_left fun key _ => hc.identity_resolve key
  refine ⟨fun identity => ?_, ?_, fun shown hmem => ?_⟩
  · rw [hidentities]
    exact hkeys.mem_iff identity
  · rw [hidentities]
    exact hkeys.increasing
  · obtain ⟨key, hkey, rfl⟩ := List.mem_map.mp hmem
    -- the identity is the same, so the same instance is looked up for what is shown
    rw [hc.identity_resolve, hkeys.shown_eq key hkey]
    unfold resolve get?
    cases c.find? key.identity <;> rfl

end Collection

/-! ## The document of a survey -/

/-- The member of an object with the given name. -/
def member? (name : String) : Value → Option Value
  | .object members => members.lookup name
  | _ => none

namespace Survey

/-- The key by which a document shows the far end of an edge from `h`: that of the stored instance,
    if there is one, and else that of the latest edge. -/
def shownKey? (s : Survey) (n : Nat) (h : Handle) (identity : Identity) : Option Key :=
  (((s.tallies n).find? identity).map Handle.key).or (latestKey? s.links h identity)

/-- The entry of an instance among the relationships of a document. -/
inductive Entry (s : Survey) (n : Nat) (h : Handle) : Value → Prop where
  | entry (keys : List Key) : Lists s.links h (s.shownKey? n h) keys →
      Entry s n h (.object [("children", .list (keys.map Key.wire)), ("parent", h.key.wire)])

/-- The instances of a collection from which there are edges, in its order. -/
def parents (s : Survey) (n : Nat) : List Handle :=
  (s.tallies n).stored.filter fun h => s.links.any (·.1.sameInstance h)

theorem Sound.inStep {s : Survey} (hs : s.Sound) (n : Nat) :
    (s.tallies n).collection.InStep (s.tallies n).accepted := (hs.pass n).inStep

theorem Sound.entries_eq {s : Survey} (hs : s.Sound) (n : Nat) :
    (s.tallies n).collection.entries = (s.tallies n).stored := (hs.inStep n).entries_eq

theorem Sound.find?_eq {s : Survey} (hs : s.Sound) (n : Nat) (identity : Identity) :
    (s.tallies n).collection.find? identity = (s.tallies n).find? identity := by
  rw [Tally.find?, ← hs.entries_eq n]
  exact ((hs.inStep n).find?_entries identity).symm

theorem Sound.entry_relationship {s : Survey} (hs : s.Sound) (n : Nat) (h : Handle) :
    s.Entry n h ((s.tallies n).collection.relationship s.graph h) := by
  have hshown : s.shownKey? n h = fun identity =>
      (((s.tallies n).collection.find? identity).map Handle.key).or
        (latestKey? s.links h identity) := by
    funext identity
    rw [shownKey?, hs.find?_eq n]
  have hkeys := (hs.inStep n).lists_resolve (hs.holds.lists_children h)
  rw [← hshown] at hkeys
  have hentry := Entry.entry _ hkeys
  rw [List.map_map] at hentry
  exact hentry

theorem Sound.wire_eq {s : Survey} (hs : s.Sound) {n : Nat}
    (hmessages : (s.tallies n).messages = []) :
    (s.tallies n).collection.wire s.graph = .object [
      ("nonExistingObjects", .list []),
      ("relationships", .list ((s.parents n).map ((s.tallies n).collection.relationship s.graph))),
      ("result", .list ((s.tallies n).stored.map s.graph.wire))] := by
  have hnone : (s.tallies n).collection.errorMessage = none := by
    rw [hs.message n, hmessages]
    rfl
  have hparents : (s.tallies n).stored.filter s.graph.hasChildren = s.parents n :=
    List.filter_congr fun h _ => Graph.hasChildren_eq hs.holds h
  rw [Collection.wire, hnone]
  simp only [hs.entries_eq n, hparents]

theorem Sound.nodup_stored {s : Survey} (hs : s.Sound) (n : Nat) :
    ((s.tallies n).stored.map Handle.identity).Nodup := by
  rw [← hs.entries_eq n, (hs.inStep n).map_entries]
  exact (hs.inStep n).nodup

/-- The document of a collection against what was asked of the survey. -/
structure DocumentExact (s : Survey) (n : Nat) : Prop where
  /-- A collection that was told of errors tells the last message and nothing else. -/
  failed : ∀ message, (s.tallies n).messages.getLast? = some message →
    (s.tallies n).collection.wire s.graph = .object [("errorMessage", .string message)]
  /-- Any other tells the instances that it took, and of those with children the edges to them. -/
  shown : (s.tallies n).messages = [] → ∃ relationships,
    List.Forall₂ (s.Entry n) (s.parents n) relationships ∧
      (s.tallies n).collection.wire s.graph = .object [
        ("nonExistingObjects", .list []),
        ("relationships", .list relationships),
        ("result", .list ((s.tallies n).stored.map s.graph.wire))]
  /-- Each identity is told once, and those are the identities that the collection finds. -/
  nodup : ((s.tallies n).stored.map Handle.identity).Nodup
  find?_eq : ∀ identity, (s.tallies n).collection.find? identity = (s.tallies n).find? identity
  /-- An instance is told with the key that stands for it in the edges. -/
  key_eq : ∀ h, member? "key" (s.graph.wire h) = some h.key.wire

theorem member?_key_wire (g : Graph) (h : Handle) : member? "key" (g.wire h) = some h.key.wire := by
  unfold Graph.wire
  rw [Value.canonical]
  simp only [canonicalMembers, member?, lookup_insertEntry]
  exact congrArg some (Key.stable_wire h.key).inOrder.canonical_eq

/-- **The document is what the collection holds.**  This is so after every sequence of steps. -/
theorem documentExact (steps : List Step) (n : Nat) : (after steps).DocumentExact n := by
  have hs := sound_after steps
  refine {
    failed := fun message hlast => ?_
    shown := fun hmessages => ⟨_, ?_, hs.wire_eq hmessages⟩
    nodup := hs.nodup_stored n
    find?_eq := hs.find?_eq n
    key_eq := member?_key_wire _ }
  · rw [Collection.wire, hs.message n, hlast]
  · rw [List.forall₂_map_right_iff, List.forall₂_same]
    exact fun h _ => hs.entry_relationship n h

end Survey

/-! ## What is told of an edge -/

/-- The elements of the list that an object has under a name. -/
def elements (name : String) (v : Value) : List Value :=
  match member? name v with
  | some (.list items) => items
  | _ => []

/-- The document tells that one object is a child of another. -/
def TellsChild (document : Value) (parent child : Key) : Prop :=
  ∃ entry ∈ elements "relationships" document,
    member? "parent" entry = some parent.wire ∧ child.wire ∈ elements "children" entry

namespace Survey

/-- The edges of a stored instance to instances of a stored identity are told, and only those. -/
theorem tellsChild_iff (steps : List Step) (n : Nat)
    (hmessages : ((after steps).tallies n).messages = []) {p c : Handle}
    (hp : p ∈ ((after steps).tallies n).stored) (hc : c ∈ ((after steps).tallies n).stored) :
    TellsChild (((after steps).tallies n).collection.wire (after steps).graph) p.key c.key ↔
      ∃ l ∈ (after steps).links, l.1.sameInstance p = true ∧ l.2.identity = c.identity := by
  have hs := sound_after steps
  have hstored : ∀ h ∈ ((after steps).tallies n).stored,
      ((after steps).tallies n).collection.find? h.identity = some h := by
    rw [← hs.entries_eq n]
    exact fun h hmem => (hs.inStep n).mem_entries.mp hmem
  have hchildren := hs.holds.lists_children p
  rw [TellsChild, hs.wire_eq hmessages]
  constructor
  · rintro ⟨entry, hentry, hparent, hchild⟩
    obtain ⟨p', hp', rfl⟩ := List.mem_map.mp hentry
    -- the entry is that of an instance with the key of `p`, and only `p` is stored for it
    have hkey : p'.key = p.key := Key.wire_injective (Option.some.inj hparent)
    have hidentity : p'.identity = p.identity := congrArg Key.identity hkey
    have hsame := hstored p' (List.mem_filter.mp hp').1
    rw [hidentity, hstored p hp] at hsame
    cases hsame
    obtain ⟨key, hmem, hwire⟩ := List.mem_map.mp hchild
    have hchild : key.identity = c.identity := by
      rw [← (hs.inStep n).identity_resolve key, Key.wire_injective hwire]
      rfl
    rw [← hchildren.mem_iff, ← hchild]
    exact List.mem_map_of_mem hmem
  · rintro ⟨l, hl, hsame, hidentity⟩
    have hparent : p ∈ (after steps).parents n :=
      List.mem_filter.mpr ⟨hp, List.any_eq_true.mpr ⟨l, hl, hsame⟩⟩
    obtain ⟨key, hmem, hkey⟩ :=
      List.mem_map.mp ((hchildren.mem_iff c.identity).mpr ⟨l, hl, hsame, hidentity⟩)
    refine ⟨_, List.mem_map_of_mem hparent, rfl, List.mem_map.mpr ⟨key, hmem, ?_⟩⟩
    rw [Collection.resolve, Collection.get?, hkey, hstored c hc]

/-! ## Two instances of one identity -/

def hostKey : Key := Key.make "X" "host" "h1" []

def machineKey : Key := Key.make "X" "vm" "canonical" [⟨"uuid", "42", true⟩]

/-- Another name of the same machine. -/
def aliasKey : Key := Key.make "X" "vm" "alias" [⟨"uuid", "42", true⟩]

/-- A collection stores a host and a machine, and two more instances of them are made. -/
def aliases : List Step :=
  [.act 0 (.object hostKey), .act 0 (.object machineKey), .act 0 (.make hostKey),
   .act 0 (.make aliasKey)]

theorem aliased_child_told :
    TellsChild (((after (aliases ++ [.child 0 3])).tallies 0).collection.wire
      (after (aliases ++ [.child 0 3])).graph) hostKey machineKey :=
  (tellsChild_iff (aliases ++ [.child 0 3]) 0 rfl (p := ⟨0, hostKey⟩) (c := ⟨1, machineKey⟩)
    (by decide) (by decide)).mpr ⟨(⟨0, hostKey⟩, ⟨3, aliasKey⟩), by decide, rfl, by decide⟩

/-- The edge of another instance of the stored host is not told of the host. -/
theorem aliased_parent_untold :
    ((after (aliases ++ [.child 2 1])).tallies 0).messages = [] ∧
      ⟨0, hostKey⟩ ∈ ((after (aliases ++ [.child 2 1])).tallies 0).stored ∧
      ⟨1, machineKey⟩ ∈ ((after (aliases ++ [.child 2 1])).tallies 0).stored ∧
      (∃ l ∈ (after (aliases ++ [.child 2 1])).links,
        l.1.identity = hostKey.identity ∧ l.2.identity = machineKey.identity) ∧
      ¬ TellsChild (((after (aliases ++ [.child 2 1])).tallies 0).collection.wire
        (after (aliases ++ [.child 2 1])).graph) hostKey machineKey := by
  have hnone : elements "relationships"
      (((after (aliases ++ [.child 2 1])).tallies 0).collection.wire
        (after (aliases ++ [.child 2 1])).graph) = [] := by rfl
  refine ⟨rfl, by decide, by decide, ⟨(⟨2, hostKey⟩, ⟨1, machineKey⟩), by decide, rfl, rfl⟩, ?_⟩
  rintro ⟨entry, hentry, _⟩
  rw [hnone] at hentry
  cases hentry

end Survey
end AdapterGateway.Inventory
