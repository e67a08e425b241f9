/-
What a mapping promises.

The walk over a stub's arguments keeps the slots in two parts: those in front
are filled, each by a source that fits it, and the others wait in their order.
No slot is left when a mapping is given, so a mapping has one fitting source for
every slot of the target.  A binding is made of a stub, an entry of the catalog
and the mapping between the two.
-/
import Mathlib.Data.List.Forall2
import ModSettings.Bridge.Discovery

namespace ModSettings
namespace Bridge

/-- The source may fill the slot: an argument that the slot admits, or the mod's
own handle where the slot wants a handle. -/
def Fits (caller : Signature) (slot : Ty) : Source → Prop
  | .argument index => ∃ declared, caller.arguments[index]? = some declared ∧
      slot.admits declared = true
  | .inject => slot.isHandle = true

/-- The sources that the moves so far have given, the earliest first. -/
def Walk.sources (w : Walk) : List Source := w.moves.reverse.filterMap Move.source?

/-- The slots in front of those that wait are filled by fitting sources. -/
def Walk.Filled (caller : Signature) (slots : List Ty) (w : Walk) : Prop :=
  ∃ filled, slots = filled ++ w.slots ∧ List.Forall₂ (Fits caller) filled w.sources

section

variable {caller : Signature} {slots : List Ty} {w : Walk}

theorem foldl_inject (taken : List Ty) (moves : List Move) :
    taken.foldl (fun moves slot => .inject slot :: moves) moves =
      (taken.map Move.inject).reverse ++ moves := by
  induction taken generalizing moves with
  | nil => rfl
  | cons slot rest ih =>
    rw [List.foldl_cons, ih, List.map_cons, List.reverse_cons, List.append_assoc]
    rfl

/-- What is read from the moves of injected slots comes last. -/
theorem filterMap_injectWhile {β : Type} (f : Move → Option β) (w : Walk) (test : Ty → Bool) :
    (w.injectWhile test).moves.reverse.filterMap f =
      w.moves.reverse.filterMap f ++ (w.slots.takeWhile test).filterMap (f ∘ Move.inject) := by
  rw [Walk.injectWhile, foldl_inject, List.reverse_append, List.reverse_reverse,
    List.filterMap_append, List.filterMap_map]

theorem sources_injectWhile (w : Walk) (test : Ty → Bool) :
    (w.injectWhile test).sources = w.sources ++ (w.slots.takeWhile test).map fun _ => .inject := by
  rw [Walk.sources, Walk.sources, filterMap_injectWhile]
  exact congrArg (_ ++ ·) (congrFun (List.filterMap_eq_map (f := fun _ : Ty => Source.inject)) _)

/-- Injecting fills slots that want a handle. -/
theorem filled_injectWhile (h : w.Filled caller slots) {test : Ty → Bool}
    (handles : ∀ slot, test slot = true → slot.isHandle = true) :
    (w.injectWhile test).Filled caller slots := by
  obtain ⟨filled, rfl, fits⟩ := h
  refine ⟨filled ++ w.slots.takeWhile test, ?_, ?_⟩
  · rw [List.append_assoc]
    exact congrArg (filled ++ ·) (List.takeWhile_append_dropWhile ..).symm
  · rw [sources_injectWhile]
    refine List.rel_append fits (List.forall₂_map_right_iff.mpr (List.forall₂_same.mpr ?_))
    exact fun slot member => handles slot (List.all_eq_true.mp List.all_takeWhile slot member)

theorem next_injectWhile (w : Walk) (test : Ty → Bool) : (w.injectWhile test).next = w.next := rfl

/-- One more move gives its source after those of the moves before it. -/
theorem sources_cons (waiting : List Ty) (next : Nat) (move : Move) (w : Walk) :
    (Walk.mk waiting next (move :: w.moves)).sources = w.sources ++ move.source?.toList := by
  rw [Walk.sources, Walk.sources, List.reverse_cons, List.filterMap_append]
  cases h : move.source? <;> simp [h]

/-- Using up an argument fills the next slot with it or fills nothing. -/
theorem filled_visit (h : w.Filled caller slots) {argument : Ty}
    (given : caller.arguments[w.next]? = some argument) :
    (w.visit argument).Filled caller slots := by
  have injected : (w.injectWhile fun slot => !slot.admits argument && slot.isHandle).Filled
      caller slots := filled_injectWhile h fun _ test => (Bool.and_eq_true_iff.mp test).2
  rw [← next_injectWhile w fun slot => !slot.admits argument && slot.isHandle] at given
  unfold Walk.visit
  generalize w.injectWhile (fun slot => !slot.admits argument && slot.isHandle) = w at *
  obtain ⟨filled, rfl, fits⟩ := injected
  dsimp only
  split
  case h_2 empty =>
    refine ⟨filled, by rw [empty], ?_⟩
    rw [sources_cons, Move.source?, Option.toList, List.append_nil]
    exact fits
  case h_1 slot rest waiting =>
    split
    case isFalse =>
      refine ⟨filled, rfl, ?_⟩
      rw [sources_cons, Move.source?, Option.toList, List.append_nil]
      exact fits
    case isTrue admits =>
      refine ⟨filled ++ [slot], by rw [waiting, List.append_assoc]; rfl, ?_⟩
      rw [sources_cons]
      exact List.rel_append fits (.cons ⟨argument, given, admits⟩ .nil)

theorem next_visit (w : Walk) (argument : Ty) : (w.visit argument).next = w.next + 1 := by
  unfold Walk.visit
  dsimp only
  split
  case h_2 => rfl
  case h_1 => split <;> rfl

/-- Any number of arguments may be used up in a row. -/
theorem filled_foldl_visit {rest : List Ty} (h : w.Filled caller slots)
    (given : caller.arguments.drop w.next = rest) :
    (rest.foldl Walk.visit w).Filled caller slots := by
  induction rest generalizing w with
  | nil => exact h
  | cons argument rest ih =>
    have here : caller.arguments[w.next]? = some argument := by
      rw [← List.head?_drop, given]
      rfl
    refine ih (filled_visit h here) ?_
    rw [next_visit, ← List.tail_drop, given]
    rfl

end

/-- There is a mapping if the results agree and the walk leaves no slot over. -/
theorem mapping?_eq_some_iff {caller target : Signature} {m : Mapping} :
    mapping? caller target = some m ↔
      caller.result.accepts target.result = true ∧ (walk caller target).slots = [] ∧
        m = { sources := (walk caller target).sources
              skipCost := (walk caller target).moves.reverse.countP (Move.isSkip caller) } := by
  unfold mapping? resultsAgree Walk.sources
  cases caller.result.accepts target.result with
  | false => simp
  | true => cases slots : (walk caller target).slots <;> simp [slots, eq_comm]

/-- A mapping has one fitting source for every slot. -/
theorem fits_of_mapping? {caller target : Signature} {m : Mapping}
    (h : mapping? caller target = some m) :
    List.Forall₂ (Fits caller) target.arguments m.sources := by
  have start : Walk.Filled caller target.arguments { slots := target.arguments } :=
    ⟨[], rfl, .nil⟩
  have walked : (walk caller target).Filled caller target.arguments :=
    filled_injectWhile (filled_foldl_visit start rfl) fun _ handle => handle
  obtain ⟨filled, slots, fits⟩ := walked
  obtain ⟨_, done, rfl⟩ := mapping?_eq_some_iff.mp h
  rw [slots, done, List.append_nil]
  exact fits

/-! ## Bindings -/

/-- The cheapest of the bindings seen so far, the first one where several cost the
same. -/
def Best (seen : List Binding) : Option Binding → Prop
  | none => seen = []
  | some b => ∃ before after, seen = before ++ b :: after ∧
      (∀ other ∈ before, b.mapping.skipCost < other.mapping.skipCost) ∧
      ∀ other ∈ after, b.mapping.skipCost ≤ other.mapping.skipCost

theorem best_cheaper {seen : List Binding} {best : Option Binding} (h : Best seen best)
    (b : Binding) : Best (seen ++ [b]) (cheaper best b) := by
  cases best with
  | none =>
    obtain rfl : seen = [] := h
    exact ⟨[], [], rfl, nofun, nofun⟩
  | some old =>
    obtain ⟨before, after, rfl, dearer, least⟩ := h
    rw [cheaper]
    split
    case isTrue less =>
      refine ⟨before ++ old :: after, [], rfl, fun other member => ?_, nofun⟩
      rcases List.mem_append.mp member with before | member
      · exact Nat.lt_trans less (dearer other before)
      · rcases List.mem_cons.mp member with rfl | after
        · exact less
        · exact Nat.lt_of_lt_of_le less (least other after)
    case isFalse notLess =>
      refine ⟨before, after ++ [b], by rw [List.append_assoc]; rfl, dearer, fun other member => ?_⟩
      rcases List.mem_append.mp member with after | last
      · exact least other after
      · obtain rfl := List.mem_singleton.mp last
        exact Nat.le_of_not_lt notLess

theorem best_foldl_cheaper {seen : List Binding} {best : Option Binding} (h : Best seen best)
    (bs : List Binding) : Best (seen ++ bs) (bs.foldl cheaper best) := by
  induction bs generalizing seen best with
  | nil =>
    rw [List.append_nil]
    exact h
  | cons b rest ih =>
    rw [← List.singleton_append, ← List.append_assoc]
    exact ih (best_cheaper h b)

/-- The bindings of a stub to the entries of its name that it matches, in their
order. -/
def bindings (stub : Stub) (c : Catalog) : List Binding :=
  (c.named stub.bareName).filterMap (match? stub)

/-- A stub is bound to the cheapest entry, or it is told what there is of its
name. -/
theorem discover_cases (stub : Stub) (c : Catalog) :
    (∃ b, discover stub c = .bound b ∧ Best (bindings stub c) (some b)) ∨
      bindings stub c = [] ∧
        ((c.named stub.bareName = [] ∧ discover stub c = .noName) ∨
          c.named stub.bareName ≠ [] ∧
            discover stub c = .noSignature ((c.named stub.bareName).map (·.method))) := by
  have start : Best [] none := rfl
  have best : Best (bindings stub c) ((bindings stub c).foldl cheaper none) :=
    best_foldl_cheaper start _
  unfold discover
  dsimp only
  rw [← bindings]
  cases found : (bindings stub c).foldl cheaper none with
  | some b =>
    rw [found] at best
    exact Or.inl ⟨b, rfl, best⟩
  | none =>
    rw [found] at best
    refine Or.inr ⟨best, ?_⟩
    cases c.named stub.bareName with
    | nil => exact Or.inl ⟨rfl, rfl⟩
    | cons o rest => exact Or.inr ⟨List.cons_ne_nil _ _, rfl⟩

theorem best_of_discover {stub : Stub} {c : Catalog} {b : Binding}
    (h : discover stub c = .bound b) : Best (bindings stub c) (some b) := by
  rcases discover_cases stub c with ⟨b', found, best⟩ | ⟨-, ⟨-, found⟩ | ⟨-, found⟩⟩
  · rw [found] at h
    cases h
    exact best
  · rw [found] at h
    exact nomatch h
  · rw [found] at h
    exact nomatch h

/-- A binding joins its stub to an entry of the catalog that it matches. -/
theorem discover_eq_bound {stub : Stub} {c : Catalog} {b : Binding}
    (h : discover stub c = .bound b) : ∃ o ∈ c.entries, b.hook = stub.method ∧
      b.target = o.method ∧ mapping? stub.method o.method = some b.mapping := by
  obtain ⟨before, after, split, -, -⟩ := best_of_discover h
  have member : b ∈ bindings stub c := by
    rw [split]
    exact List.mem_append_right _ List.mem_cons_self
  obtain ⟨o, ho, matched⟩ := List.mem_filterMap.mp member
  obtain ⟨mapping, mapped, rfl⟩ := Option.map_eq_some_iff.mp matched
  exact ⟨o, (List.mem_filter.mp ho).1, rfl, rfl, mapped⟩

/-- The only entry of a stub's name is bound if it matches. -/
theorem discover_of_named {stub : Stub} {c : Catalog} {o : Offer} {b : Binding}
    (entry : c.named stub.bareName = [o]) (matched : match? stub o = some b) :
    discover stub c = .bound b := by
  rw [discover, entry, List.filterMap_cons_some matched]
  rfl

end Bridge
end ModSettings
