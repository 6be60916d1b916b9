import AdapterGateway.Proofs.Inventory.Ledger
import AdapterGateway.Proofs.Occurrence

/-!
# Histories of properties

The values of a property from the oldest to the latest.  Properties of one time stand in the order in
which they were added, so that the latest value is the one that was added last of those with the
greatest time.
-/

namespace AdapterGateway.Inventory

/-! ## Order of time -/

/-- `sorted` are the properties in `added` from the oldest to the latest, and those of one time in the
    order in which they were added. -/
structure Chronicle (added sorted : List Property) : Prop where
  perm : sorted.Perm added
  ordered : sorted.Pairwise fun p q => p.timestamp ≤ q.timestamp
  filter_eq : ∀ time, sorted.filter (·.timestamp == time) = added.filter (·.timestamp == time)

/-- No property is later than `p`, and none that was added after it is as late. -/
def IsLatest (added : List Property) (p : Property) : Prop :=
  IsLast (fun p => ∀ q ∈ added, q.timestamp ≤ p.timestamp) added p

namespace Property

/-- Whether `p` may stand before `q` in a history. -/
def notLater (p q : Property) : Bool := decide (p.timestamp ≤ q.timestamp)

theorem notLater_trans (p q r : Property) (hpq : p.notLater q = true) (hqr : q.notLater r = true) :
    p.notLater r = true :=
  decide_eq_true (Int64.le_trans (of_decide_eq_true hpq) (of_decide_eq_true hqr))

theorem notLater_total (p q : Property) : (p.notLater q || q.notLater p) = true := by
  rw [Bool.or_eq_true]
  exact (Int64.le_total p.timestamp q.timestamp).imp decide_eq_true decide_eq_true

/-- Properties of one time may stand in any order. -/
theorem pairwise_notLater_filter (added : List Property) (time : Int64) :
    (added.filter (·.timestamp == time)).Pairwise fun p q => p.notLater q = true := by
  rw [List.pairwise_filter]
  refine List.pairwise_of_forall fun p q hp hq => ?_
  have heq : p.timestamp = q.timestamp := (eq_of_beq hp).trans (eq_of_beq hq).symm
  exact decide_eq_true (heq ▸ Int64.le_refl _)

end Property

theorem chronicle_mergeSort (added : List Property) :
    Chronicle added (added.mergeSort Property.notLater) where
  perm := added.mergeSort_perm Property.notLater
  ordered := (added.pairwise_mergeSort Property.notLater_trans Property.notLater_total).imp
    of_decide_eq_true
  filter_eq time := by
    -- what is in order as it stands keeps its order in the sorted list
    have hsub := (List.sublist_mergeSort Property.notLater_trans Property.notLater_total
      (Property.pairwise_notLater_filter added time) List.filter_sublist).filter (·.timestamp == time)
    rw [List.filter_filter] at hsub
    simp only [Bool.and_self] at hsub
    have hlength := ((added.mergeSort_perm Property.notLater).filter (·.timestamp == time)).length_eq
    exact (hsub.eq_of_length hlength.symm).symm

section
variable {added sorted : List Property}

/-- The order of time ends with the latest property. -/
theorem Chronicle.getLast?_eq_some_iff (hc : Chronicle added sorted) {p : Property} :
    sorted.getLast? = some p ↔ IsLatest added p := by
  have hlatest : IsLatest added p ↔ (added.filter fun p =>
      decide (∀ q ∈ added, q.timestamp ≤ p.timestamp)).getLast? = some p := by
    rw [List.getLast?_filter]
    exact (find?_reverse_eq_some_iff fun _ => decide_eq_true_iff).symm
  rw [hlatest]
  rcases List.eq_nil_or_concat' sorted with rfl | ⟨before, last, rfl⟩
  · rw [List.nil_perm.mp hc.perm]
    rfl
  · -- the greatest time is that of the last property, and both lists have the same ones of that time
    have hle : ∀ q ∈ added, q.timestamp ≤ last.timestamp := by
      intro q hq
      rcases List.mem_append.mp (hc.perm.mem_iff.mpr hq) with hbefore | hlast
      · exact (List.pairwise_append.mp hc.ordered).2.2 q hbefore last List.mem_cons_self
      · rw [List.mem_singleton.mp hlast]
        exact Int64.le_refl _
    have hmem : last ∈ added :=
      hc.perm.mem_iff.mp (List.mem_append_right _ List.mem_cons_self)
    have hgreatest : ∀ q ∈ added, decide (∀ r ∈ added, r.timestamp ≤ q.timestamp) =
        (q.timestamp == last.timestamp) := by
      intro q hq
      rw [Bool.eq_iff_iff, decide_eq_true_iff, beq_iff_eq]
      constructor
      · exact fun hall => Int64.le_antisymm (hle q hq) (hall last hmem)
      · intro heq r hr
        rw [heq]
        exact hle r hr
    rw [List.filter_congr hgreatest, ← hc.filter_eq, List.filter_append,
      List.filter_cons_of_pos (by exact BEq.refl _), List.filter_nil,
      List.getLast?_concat, List.getLast?_concat]

theorem Chronicle.getLast?_eq_none_iff (hc : Chronicle added sorted) :
    sorted.getLast? = none ↔ added = [] := by
  rw [List.getLast?_eq_none_iff, ← List.length_eq_zero_iff, hc.perm.length_eq,
    List.length_eq_zero_iff]

end

/-! ## The history of a property -/

namespace Ledger

/-- The properties of one key that were added to the instance of `h`, in order. -/
def added (l : Ledger) (h : Handle) (key : String) : List Property :=
  ((l.samplesOf h).filterMap Sample.property?).filter (·.key == key)

/-- What is told of a property against the record of what was added. -/
structure HistoryKept (l : Ledger) (h : Handle) (key : String) : Prop where
  /-- The values are told from the oldest to the latest. -/
  values_eq : ∃ sorted, Chronicle (l.added h key) sorted ∧
    (l.survey.graph.look h).propertyValues key = sorted.map (·.value)
  latest_iff : ∀ v, (l.survey.graph.look h).lastPropertyValue? key = some v ↔
    ∃ p, IsLatest (l.added h key) p ∧ p.value = v
  latest_none_iff : (l.survey.graph.look h).lastPropertyValue? key = none ↔ l.added h key = []
  /-- To be asked changes nothing. -/
  inquire_eq : ∀ n, l.survey.known[n]? = some h → l.perform (.inquire n key) = { l with
    answers := l.answers ++ [⟨(l.survey.graph.look h).propertyValues key,
      (l.survey.graph.look h).lastPropertyValue? key⟩] }

/-- **Properties have their history.**  This is so after every sequence of uses. -/
theorem historyKept (uses : List Use) (h : Handle) (key : String) :
    (after uses).HistoryKept h key := by
  have hadded : ((after uses).survey.graph.look h).propertiesOf key = (after uses).added h key := by
    rw [Contents.propertiesOf, ((sound_after uses).collects h).properties_eq, added]
  have hchronicle := chronicle_mergeSort ((after uses).added h key)
  have hvalues : ((after uses).survey.graph.look h).propertyValues key =
      (((after uses).added h key).mergeSort Property.notLater).map (·.value) := by
    rw [Contents.propertyValues, hadded]
    rfl
  refine {
    values_eq := ⟨_, hchronicle, hvalues⟩
    latest_iff := fun v => ?_
    latest_none_iff := ?_
    inquire_eq := fun n hn => ?_ }
  · rw [Contents.lastPropertyValue?, hvalues, List.getLast?_map, Option.map_eq_some_iff]
    simp only [hchronicle.getLast?_eq_some_iff]
  · rw [Contents.lastPropertyValue?, hvalues, List.getLast?_map, Option.map_eq_none_iff, hchronicle.getLast?_eq_none_iff]
  · simp only [perform, Survey.follow, Use.samples, Use.answers, hn, List.append_nil]

end Ledger
end AdapterGateway.Inventory
