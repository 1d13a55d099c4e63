import Mathlib.Data.List.Forall2
import Mathlib.Data.List.Nodup

/-!
Contract: lists that are searched by key, and lists of results that may be missing.

Owns: what is found where no key stands twice, and when all results are there.

Does not own: the lists that are searched (ports by name, fields of records, links by input).
-/

namespace DemandFlow

variable {Key Content : Type} [BEq Key] [LawfulBEq Key]

theorem mem_of_lookup_eq_some {entries : List (Key × Content)} {key : Key} {content : Content}
    (found : entries.lookup key = some content) : (key, content) ∈ entries := by
  obtain ⟨before, after, split, -⟩ := List.lookup_eq_some_iff.mp found
  rw [split]
  exact List.mem_append_right _ List.mem_cons_self

/-- Where no key stands twice, every entry is found by its key. -/
theorem lookup_eq_some_iff_mem {entries : List (Key × Content)}
    (once : (entries.map Prod.fst).Nodup) {key : Key} {content : Content} :
    entries.lookup key = some content ↔ (key, content) ∈ entries := by
  refine ⟨mem_of_lookup_eq_some, fun member => ?_⟩
  obtain ⟨before, after, rfl⟩ := List.append_of_mem member
  refine List.lookup_eq_some_iff.mpr ⟨before, after, rfl, fun entry earlier => ?_⟩
  rw [List.map_append, List.map_cons] at once
  have differs := (List.nodup_append.mp once).2.2 _ (List.mem_map_of_mem earlier) _
    List.mem_cons_self
  exact bne_iff_ne.mpr differs.symm

/-- Where no key stands twice, every item is the first one of its key. -/
theorem find?_eq_some_iff_mem {Item : Type} {items : List Item} {keyOf : Item → Key}
    (once : (items.map keyOf).Nodup) {key : Key} {item : Item} :
    items.find? (keyOf · == key) = some item ↔ item ∈ items ∧ keyOf item = key := by
  constructor
  · intro found
    exact ⟨List.mem_of_find?_eq_some found, by simpa using List.find?_some found⟩
  · rintro ⟨member, rfl⟩
    have isFound : (items.find? (keyOf · == keyOf item)).isSome = true :=
      List.find?_isSome.mpr ⟨item, member, by simp⟩
    obtain ⟨other, found⟩ := Option.isSome_iff_exists.mp isFound
    have sameKey : keyOf other = keyOf item := by simpa using List.find?_some found
    rw [found, List.inj_on_of_nodup_map once (List.mem_of_find?_eq_some found) member sameKey]

theorem mapM_eq_some_iff {Item Result : Type} {run : Item → Option Result} {items : List Item}
    {results : List Result} :
    items.mapM run = some results ↔
      List.Forall₂ (fun item result => run item = some result) items results := by
  induction items generalizing results with
  | nil => simp [eq_comm]
  | cons first rest inductionHypothesis =>
      simp only [List.mapM_cons, Option.bind_eq_bind, Option.bind_eq_some_iff,
        List.forall₂_cons_left_iff, inductionHypothesis]
      constructor
      · rintro ⟨result, ran, others, each, ⟨⟩⟩
        exact ⟨result, others, ran, each, rfl⟩
      · rintro ⟨result, others, ran, each, rfl⟩
        exact ⟨result, ran, others, each, rfl⟩

end DemandFlow
