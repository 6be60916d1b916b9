import AdapterGateway.Inventory.Graph

/-!
# Edges

The edge sets of a graph against the list of the edges that were made.  Each edge changes two
instances, which may be one, and only their edge sets; so the set of an instance is what its edges
of that list come to: one key for each identity at their far ends, that of the latest edge, in the
order of the identities.
-/

namespace AdapterGateway.Inventory

/-- The key at the far end of the latest edge from `h` to an instance of that identity. -/
def latestKey? (links : List (Handle × Handle)) (h : Handle) (identity : Identity) : Option Key :=
  (links.reverse.find? fun l => l.1.sameInstance h && l.2.identity == identity).map (·.2.key)

/-- `keys` lists the far ends of the edges from `h`: each identity once, in increasing order, and
    with the key that is `shown` for it. -/
structure Lists (links : List (Handle × Handle)) (h : Handle) (shown : Identity → Option Key)
    (keys : List Key) : Prop where
  mem_iff : ∀ identity, identity ∈ keys.map Key.identity ↔
    ∃ l ∈ links, l.1.sameInstance h = true ∧ l.2.identity = identity
  increasing : (keys.map Key.identity).Pairwise fun i j => compare i j = .lt
  shown_eq : ∀ key ∈ keys, shown key.identity = some key

/-- The edge set of `h`: the far ends of its edges, with the latest key of each identity. -/
def farEnds (links : List (Handle × Handle)) (h : Handle) : Dictionary Identity Key :=
  Dictionary.ofList ((links.filter (·.1.sameInstance h)).map fun l => (l.2.identity, l.2.key))

theorem farEnds_concat (links : List (Handle × Handle)) (l : Handle × Handle) (h : Handle) :
    farEnds (links ++ [l]) h =
      if l.1.sameInstance h then (farEnds links h).insert l.2.identity l.2.key
      else farEnds links h := by
  unfold farEnds
  rw [List.filter_append]
  by_cases hsame : l.1.sameInstance h = true
  · rw [if_pos hsame, List.filter_cons_of_pos (by exact hsame), List.filter_nil, List.map_append]
    exact Dictionary.ofList_concat _ (l.2.identity, l.2.key)
  · rw [if_neg hsame, List.filter_cons_of_neg (by exact hsame), List.filter_nil, List.append_nil]

theorem get?_farEnds (links : List (Handle × Handle)) (h : Handle) (identity : Identity) :
    (farEnds links h).get? identity = latestKey? links h identity := by
  unfold farEnds latestKey?
  rw [Dictionary.get?_ofList, lastValue?, ← List.map_reverse, ← List.filter_reverse]
  induction links.reverse with
  | nil => rfl
  | cons l rest ih =>
    by_cases hsame : l.1.sameInstance h = true
    · rw [List.filter_cons_of_pos (by exact hsame), List.map_cons, List.lookup_cons,
        List.find?_cons, hsame, Bool.true_and, BEq.comm]
      cases l.2.identity == identity
      · exact ih
      · rfl
    · rw [List.filter_cons_of_neg (by exact hsame), List.find?_cons, Bool.eq_false_iff.mpr hsame]
      exact ih

theorem latestKey?_eq_some {links : List (Handle × Handle)} {h : Handle} {identity : Identity}
    {key : Key} (hkey : latestKey? links h identity = some key) :
    ∃ l ∈ links, l.1.sameInstance h = true ∧ l.2.identity = identity ∧ l.2.key = key := by
  obtain ⟨l, hfind, hend⟩ := Option.map_eq_some_iff.mp hkey
  have hmem := List.mem_of_find?_eq_some hfind
  have hl := List.find?_some hfind
  rw [Bool.and_eq_true] at hl
  exact ⟨l, List.mem_reverse.mp hmem, hl.1, eq_of_beq hl.2, hend⟩

theorem isSome_latestKey?_iff {links : List (Handle × Handle)} {h : Handle} {identity : Identity} :
    (latestKey? links h identity).isSome ↔
      ∃ l ∈ links, l.1.sameInstance h = true ∧ l.2.identity = identity := by
  unfold latestKey?
  rw [Option.isSome_map, List.find?_isSome]
  simp only [List.mem_reverse, Bool.and_eq_true, beq_iff_eq]

/-- Where an identity stands at the far end of no other instance, its key is listed exactly when
    there is an edge to the instance. -/
theorem Lists.key_mem_iff {links : List (Handle × Handle)} {h far : Handle} {keys : List Key}
    (hkeys : Lists links h (latestKey? links h) keys)
    (hfar : ∀ l ∈ links, l.2.identity = far.identity → l.2 = far) :
    far.key ∈ keys ↔ ∃ l ∈ links, l.1.sameInstance h = true ∧ l.2 = far := by
  constructor
  · intro hmem
    obtain ⟨l, hl, hsame, hidentity⟩ := (hkeys.mem_iff far.identity).mp (List.mem_map_of_mem hmem)
    exact ⟨l, hl, hsame, hfar l hl hidentity⟩
  · rintro ⟨l, hl, hsame, rfl⟩
    obtain ⟨key, hmem, hidentity⟩ :=
      List.mem_map.mp ((hkeys.mem_iff l.2.identity).mpr ⟨l, hl, hsame, rfl⟩)
    obtain ⟨l', hl', _, hidentity', hkey⟩ := latestKey?_eq_some (hkeys.shown_eq key hmem)
    rw [← hfar l' hl' (hidentity'.trans hidentity), hkey]
    exact hmem

theorem lists_farEnds (links : List (Handle × Handle)) (h : Handle) :
    Lists links h (latestKey? links h) (farEnds links h).values := by
  have hentry : ∀ entry ∈ (farEnds links h).entries,
      latestKey? links h entry.1 = some entry.2 ∧ entry.2.identity = entry.1 := by
    intro entry hmem
    have hlatest : latestKey? links h entry.1 = some entry.2 := by
      rw [← get?_farEnds]
      exact (Dictionary.mem_entries_iff _ _ _).mp hmem
    obtain ⟨l, _, _, hidentity, hkey⟩ := latestKey?_eq_some hlatest
    refine ⟨hlatest, ?_⟩
    rw [← hkey, ← hidentity]
    rfl
  -- each key stands under its own identity, so the keys in their order are in the order of those
  have hkeys : (farEnds links h).values.map Key.identity = (farEnds links h).keys := by
    unfold Dictionary.values Dictionary.keys
    rw [List.map_map]
    exact List.map_congr_left fun entry hmem => (hentry entry hmem).2
  refine ⟨fun identity => ?_, ?_, fun key hmem => ?_⟩
  · rw [hkeys, Dictionary.mem_keys_iff, get?_farEnds]
    exact isSome_latestKey?_iff
  · rw [hkeys]
    exact List.pairwise_map.mpr (farEnds links h).ordered
  · obtain ⟨entry, hentries, rfl⟩ := List.mem_map.mp hmem
    obtain ⟨hlatest, hidentity⟩ := hentry entry hentries
    rw [hidentity]
    exact hlatest

/-! ## Graphs that hold edges -/

namespace Graph

/-- The edge sets of the graph are what these edges, each a parent and a child, come to. -/
structure Holds (g : Graph) (links : List (Handle × Handle)) : Prop where
  children_eq : ∀ h, (g.look h).children = farEnds links h
  parents_eq : ∀ h, (g.look h).parents = farEnds (links.map Prod.swap) h

theorem holds_nil : Holds {} [] where
  children_eq _ := rfl
  parents_eq _ := rfl

theorem Holds.create {g : Graph} {links : List (Handle × Handle)} (hg : g.Holds links) (key : Key) :
    (g.create key).2.Holds links where
  children_eq h := by
    rw [look_create]
    exact hg.children_eq h
  parents_eq h := by
    rw [look_create]
    exact hg.parents_eq h

theorem Holds.modify {g : Graph} {links : List (Handle × Handle)} (hg : g.Holds links) {h : Handle}
    (hlt : h.id < g.contents.size) {f : Contents → Contents}
    (hf : ∀ c, (f c).children = c.children ∧ (f c).parents = c.parents) :
    (g.modify h f).Holds links where
  children_eq x := by
    rw [look_modify hlt, ← hg.children_eq x]
    split
    · exact (hf _).1
    · rfl
  parents_eq x := by
    rw [look_modify hlt, ← hg.parents_eq x]
    split
    · exact (hf _).2
    · rfl

theorem size_link (g : Graph) (c p : Handle) : (g.link c p).contents.size = g.contents.size := by
  unfold Graph.link
  rw [size_modify, size_modify]

theorem Holds.link {g : Graph} {links : List (Handle × Handle)} (hg : g.Holds links) {c p : Handle}
    (hc : c.id < g.contents.size) (hp : p.id < g.contents.size) :
    (g.link c p).Holds (links ++ [(p, c)]) := by
  have hsize : p.id < (g.modify c fun s =>
      { s with parents := s.parents.insert p.identity p.key }).contents.size := by
    rw [size_modify]
    exact hp
  unfold Graph.link
  -- one set is changed at either end, and the two stay apart where both ends are one instance
  constructor
  · intro h
    rw [look_modify hsize, look_modify hc, farEnds_concat, ← hg.children_eq h]
    by_cases hsame : p.sameInstance h = true
    · rw [if_pos hsame, if_pos hsame]
      split <;> rfl
    · rw [if_neg hsame, if_neg hsame]
      split <;> rfl
  · intro h
    rw [look_modify hsize, look_modify hc, List.map_append, List.map_singleton, farEnds_concat,
      Prod.swap_prod_mk, ← hg.parents_eq h]
    by_cases hsame : c.sameInstance h = true
    · rw [if_pos hsame, if_pos hsame]
      split <;> rfl
    · rw [if_neg hsame, if_neg hsame]
      split <;> rfl

theorem Holds.foldl_link {g : Graph} {links more : List (Handle × Handle)} (hg : g.Holds links)
    (hmore : ∀ l ∈ more, l.1.id < g.contents.size ∧ l.2.id < g.contents.size) :
    (more.foldl (fun g l => g.link l.2 l.1) g).Holds (links ++ more) := by
  induction more generalizing g links with
  | nil =>
    rw [List.append_nil]
    exact hg
  | cons l more ih =>
    obtain ⟨hp, hc⟩ := hmore l List.mem_cons_self
    rw [List.foldl_cons, ← List.singleton_append, ← List.append_assoc]
    apply ih (hg.link hc hp)
    intro l' hmem
    rw [size_link]
    exact hmore l' (List.mem_cons_of_mem l hmem)

theorem size_foldl_link (g : Graph) (links : List (Handle × Handle)) :
    (links.foldl (fun g l => g.link l.2 l.1) g).contents.size = g.contents.size := by
  induction links generalizing g with
  | nil => rfl
  | cons l links ih => rw [List.foldl_cons, ih, size_link]

theorem Holds.lists_children {g : Graph} {links : List (Handle × Handle)} (hg : g.Holds links)
    (h : Handle) : Lists links h (latestKey? links h) (g.children h) := by
  rw [children, hg.children_eq h]
  exact lists_farEnds links h

theorem Holds.lists_parents {g : Graph} {links : List (Handle × Handle)} (hg : g.Holds links)
    (h : Handle) :
    Lists (links.map Prod.swap) h (latestKey? (links.map Prod.swap) h) (g.parents h) := by
  rw [parents, hg.parents_eq h]
  exact lists_farEnds _ h

end Graph
end AdapterGateway.Inventory
