/-
Which entry of the catalog a stub is bound to, and what runs when it is called.

Several entries may have a stub's name and match it.  The first of the cheapest is
bound, and the adapter calls it by its signature, for which the catalog looks again.
An entry before it cannot be found instead: with an equal signature it would have
matched at the same cost.  The theorem this file exists for is
`discover_first_cheapest`.
-/
import ModSettings.Proofs.Bridge.Matching
import ModSettings.Proofs.Types.Naming

namespace ModSettings

/-- The types that the catalog's methods name. -/
def Catalog.types (c : Catalog) : List Ty := c.entries.flatMap (·.method.types)

namespace Bridge

/-- The binding leads from the stub to the entry, which has the stub's name. -/
structure Joins (stub : Stub) (o : Offer) (b : Binding) : Prop where
  named : sameIgnoringCase o.method.name stub.bareName = true
  hook : b.hook = stub.method
  target : b.target = o.method
  mapped : mapping? stub.method o.method = some b.mapping

/-- The entry is the first of the cheapest that the stub can be bound to. -/
def FirstCheapest (stub : Stub) (c : Catalog) (o : Offer) (b : Binding) : Prop :=
  ∃ before after, c.entries = before ++ o :: after ∧ Joins stub o b ∧
    (∀ other ∈ before, ∀ b', Joins stub other b' → b.mapping.skipCost < b'.mapping.skipCost) ∧
    ∀ other ∈ after, ∀ b', Joins stub other b' → b.mapping.skipCost ≤ b'.mapping.skipCost

section

variable {stub : Stub} {c : Catalog} {o : Offer} {b : Binding}

/-- The binding to an entry that has the stub's name and matches it. -/
def join? (stub : Stub) (o : Offer) : Option Binding :=
  if sameIgnoringCase o.method.name stub.bareName then match? stub o else none

theorem join?_eq_some_iff : join? stub o = some b ↔ Joins stub o b := by
  rw [join?, Option.ite_none_right_eq_some, match?, Option.map_eq_some_iff]
  constructor
  · rintro ⟨named, mapping, mapped, rfl⟩
    exact ⟨named, rfl, rfl, mapped⟩
  · intro joins
    refine ⟨joins.named, b.mapping, joins.mapped, ?_⟩
    rw [← joins.hook, ← joins.target]

theorem bindings_eq (stub : Stub) (c : Catalog) :
    bindings stub c = c.entries.filterMap (join? stub) := by
  rw [bindings, Catalog.named, List.filterMap_filter]
  rfl

theorem bindings_eq_nil_iff : bindings stub c = [] ↔ ∀ o ∈ c.entries, ∀ b, ¬Joins stub o b := by
  rw [bindings_eq, List.filterMap_eq_nil_iff]
  simp only [Option.eq_none_iff_forall_ne_some, ne_eq, join?_eq_some_iff]

/-- Where the bindings are split at the cheapest, the entries can be split too. -/
theorem firstCheapest_of_best (h : Best (bindings stub c) (some b)) :
    ∃ o, FirstCheapest stub c o b := by
  obtain ⟨before, after, split, dearer, least⟩ := h
  rw [bindings_eq, List.filterMap_eq_append_iff] at split
  obtain ⟨l₁, l₂, entries, rfl, split⟩ := split
  obtain ⟨k₁, o, k₂, rfl, skipped, joined, rfl⟩ := List.filterMap_eq_cons_iff.mp split
  refine ⟨o, l₁ ++ k₁, k₂, by rw [entries, List.append_assoc], join?_eq_some_iff.mp joined,
    fun other member b' joins => ?_, fun other member b' joins => ?_⟩
  · have found := join?_eq_some_iff.mpr joins
    rcases List.mem_append.mp member with here | passed
    · exact dearer b' (List.mem_filterMap.mpr ⟨other, here, found⟩)
    · rw [skipped other passed] at found
      exact nomatch found
  · exact least b' (List.mem_filterMap.mpr ⟨other, member, join?_eq_some_iff.mpr joins⟩)

/-- Equal signatures in the catalog are the same signature if no two of its classes
share their name. -/
theorem method_eq_of_beq (unique : Ty.Consistent c.types) {o o' : Offer} (ho : o ∈ c.entries)
    (ho' : o' ∈ c.entries) (h : (o.method == o'.method) = true) : o.method = o'.method := by
  have named {o : Offer} (member : o ∈ c.entries) :
      Ty.classesAll o.method.types ⊆ Ty.classesAll c.types :=
    Ty.classesAll_subset (fun _ type => List.mem_flatMap.mpr ⟨o, member, type⟩)
  exact Signature.eq_of_agree (unique.mono (named ho) (named ho')) h

/-- The entry that is bound is the one that runs. -/
theorem native?_of_firstCheapest (unique : Ty.Consistent c.types)
    (h : FirstCheapest stub c o b) : c.native? b.target = some o.run := by
  obtain ⟨before, after, entries, joins, dearer, -⟩ := h
  have bound : o ∈ c.entries := by
    rw [entries]
    exact List.mem_append_right _ List.mem_cons_self
  -- an entry in front with that signature would be no dearer
  have passed : ∀ other ∈ before, ¬(other.method == o.method) = true := by
    intro other member same
    have method : other.method = o.method := by
      refine method_eq_of_beq unique ?_ bound same
      rw [entries]
      exact List.mem_append_left _ member
    have joined : Joins stub other b :=
      ⟨method ▸ joins.named, joins.hook, joins.target.trans method.symm, method ▸ joins.mapped⟩
    exact Nat.lt_irrefl _ (dearer other member b joined)
  have found : (c.entries ++ [Offer.getParent]).find? (·.method == o.method) = some o := by
    rw [List.find?_eq_some_iff_append]
    refine ⟨BEq.rfl, before, after ++ [Offer.getParent], ?_, fun other member => ?_⟩
    · rw [entries, List.append_assoc, List.cons_append]
    · rw [Bool.eq_false_iff.mpr (passed other member)]
      rfl
  rw [joins.target, Catalog.native?, found]
  rfl

/-! ## What discovery comes to -/

theorem exists_discover_eq_bound_iff :
    (∃ b, discover stub c = .bound b) ↔ bindings stub c ≠ [] := by
  constructor
  · rintro ⟨b, found⟩
    obtain ⟨before, after, split, -, -⟩ := best_of_discover found
    rw [split]
    exact List.append_ne_nil_of_right_ne_nil _ (List.cons_ne_nil _ _)
  · intro matched
    rcases discover_cases stub c with ⟨b, found, -⟩ | ⟨none, -⟩
    · exact ⟨b, found⟩
    · exact absurd none matched

theorem discover_eq_noName_iff : discover stub c = .noName ↔ c.named stub.bareName = [] := by
  constructor
  · intro h
    rcases discover_cases stub c with ⟨b, found, -⟩ | ⟨-, ⟨empty, -⟩ | ⟨-, found⟩⟩
    · rw [found] at h
      exact nomatch h
    · exact empty
    · rw [found] at h
      exact nomatch h
  · intro empty
    rw [discover, empty]
    rfl

theorem discover_eq_noSignature_iff {signatures : List Signature} :
    discover stub c = .noSignature signatures ↔ c.named stub.bareName ≠ [] ∧
      bindings stub c = [] ∧ signatures = (c.named stub.bareName).map (·.method) := by
  rcases discover_cases stub c with ⟨b, found, -⟩ | ⟨none, ⟨empty, found⟩ | ⟨others, found⟩⟩
  · have matched := exists_discover_eq_bound_iff.mp ⟨b, found⟩
    rw [found]
    exact ⟨nofun, fun h => absurd h.2.1 matched⟩
  · rw [found]
    exact ⟨nofun, fun h => absurd empty h.1⟩
  · rw [found, Discovery.noSignature.injEq, eq_comm]
    exact ⟨fun listed => ⟨others, none, listed⟩, fun h => h.2.2⟩

theorem named_eq_nil_iff {name : String} :
    c.named name = [] ↔ ∀ o ∈ c.entries, sameIgnoringCase o.method.name name = false := by
  simp only [Catalog.named, List.filter_eq_nil_iff, Bool.not_eq_true]

/-- Of the entries that have a stub's name and match it the first of the cheapest is
bound, and calling what was bound runs that entry.  Where none match, the stub is told
the signatures of all entries that have its name, unless there are none. -/
theorem discover_first_cheapest (stub : Stub) (c : Catalog) (unique : Ty.Consistent c.types) :
    ((∃ b, discover stub c = .bound b) ↔ ∃ o ∈ c.entries, ∃ b, Joins stub o b) ∧
      (∀ b, discover stub c = .bound b →
        ∃ o, FirstCheapest stub c o b ∧ c.native? b.target = some o.run) ∧
      (discover stub c = .noName ↔
        ∀ o ∈ c.entries, sameIgnoringCase o.method.name stub.bareName = false) ∧
      ∀ signatures, discover stub c = .noSignature signatures ↔
        (∃ o ∈ c.entries, sameIgnoringCase o.method.name stub.bareName = true) ∧
          (∀ o ∈ c.entries, ∀ b, ¬Joins stub o b) ∧
          signatures = (c.named stub.bareName).map (·.method) := by
  refine ⟨?_, fun b found => ?_, ?_, fun signatures => ?_⟩
  · rw [exists_discover_eq_bound_iff, ne_eq, bindings_eq_nil_iff]
    simp only [not_forall, not_not, exists_prop]
  · obtain ⟨o, first⟩ := firstCheapest_of_best (best_of_discover found)
    exact ⟨o, first, native?_of_firstCheapest unique first⟩
  · rw [discover_eq_noName_iff, named_eq_nil_iff]
  · rw [discover_eq_noSignature_iff, bindings_eq_nil_iff, ne_eq, named_eq_nil_iff]
    simp only [not_forall, Bool.not_eq_false, exists_prop]

end

/-- Three methods of one name, of which the second is the first that needs both
parameters of the stub. -/
def samplePicks : Catalog :=
  { others := [
      .api "Pick" [.mod, .string] .void Native.inWorld,
      .api "Pick" [.mod, .string, .int] .void (.resetter Value.asMod),
      .api "Pick" [.mod, .string, .int] .void Native.inWorld] }

def samplePick : Stub :=
  { holder := .mod
    method := { owner := .mod, name := hookMark ++ "pick", params := [.string, .int]
                isStatic := true } }

theorem discover_samplePick : discover samplePick samplePicks = .bound
    { hook := samplePick.method
      target := (Offer.api "Pick" [.mod, .string, .int] .void (.resetter Value.asMod)).method
      mapping := { sources := [.inject, .argument 0, .argument 1], skipCost := 0 } } := by
  have name : samplePick.bareName = "pick" := by
    show bareName (hookMark ++ "pick") = _
    decide +kernel
  have entries : samplePicks.named "pick" = samplePicks.others := by
    simp [Catalog.named, Catalog.entries, samplePicks, sameIgnoringCase_eq, Offer.api,
      Offer.getMod, Offer.getCaller]
  rw [discover, name, entries]
  rfl

theorem discover_first_cheapest_sample : Ty.Consistent samplePicks.types ∧ ∃ o b,
    discover samplePick samplePicks = .bound b ∧ FirstCheapest samplePick samplePicks o b ∧
      o.run = .resetter Value.asMod := by
  have unique : Ty.Consistent samplePicks.types := by
    refine Ty.consistent_of_wellKnown ?_
    simp [Catalog.types, Catalog.entries, samplePicks, Signature.types, Offer.api, Offer.getMod,
      Offer.getCaller, Ty.classesAll, Ty.classes, Ty.mod, Ty.eventCaller, Ty.api]
  obtain ⟨-, found, -⟩ := discover_first_cheapest samplePick samplePicks unique
  obtain ⟨o, first, runs⟩ := found _ discover_samplePick
  exact ⟨unique, o, _, discover_samplePick, first, (Option.some.inj runs).symm⟩

end Bridge
end ModSettings
