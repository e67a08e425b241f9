/-
Relaying what hooks say of texts and carets.

Positions in a text are unsigned numbers of 64 bits, and hooks get and give signed
ones.  On the way to a hook a position is reinterpreted, which makes a large one
negative; on the way back a negative number is no position.  `positions_relayed` says
that an answer is passed on as a whole or not at all: where a hook gave both halves
and both can be read, they are the answer, and everywhere else the answer is what was
there before, so no half of it ever meets a half of something else.
-/
import ModSettings.Proofs.Event.Entry
import ModSettings.Proofs.Session.Origin
import ModSettings.Proofs.Session.Receiver

namespace ModSettings

namespace HookTable

/-! ## Positions -/

theorem position?_of_nonneg {n : Int64} (h : 0 ≤ n) :
    ∃ p, position? n = some p ∧ (p.toNat : Int) = n.toInt := by
  have sign : 0 ≤ n.toInt := Int64.le_iff_toInt_le.mp h
  refine ⟨n.toUInt64, if_pos h, ?_⟩
  rw [Int64.toNat_toUInt64_of_le h]
  exact Int.toNat_of_nonneg sign

theorem position?_of_neg {n : Int64} (h : n < 0) : position? n = none :=
  if_neg (Int64.not_le.mpr h)

/-- A number that was made of a position leads back to it or to none. -/
theorem position?_toInt64 (p : UInt64) :
    position? p.toInt64 = some p ∨ position? p.toInt64 = none := by
  unfold position?
  split
  · exact Or.inl (congrArg some p.toUInt64_toInt64)
  · exact Or.inr rfl

/-- The text and the position that a result holds. -/
def edit? (result : Value) : Option (String × UInt64) :=
  result.textAndInt?.bind fun held => (position? held.2).map (held.1, ·)

/-- The two positions that a result holds. -/
def carets? (result : Value) : Option (UInt64 × UInt64) :=
  result.intPair?.bind fun held =>
    (position? held.1).bind fun caret => (position? held.2).map (caret, ·)

theorem edit?_eq_some {v : Value} {found : String × UInt64} (h : edit? v = some found) :
    ∃ text n, v = .tuple [.str text, .int n] ∧ (position? n).isSome = true := by
  obtain ⟨⟨text, n⟩, shape, read⟩ := Option.bind_eq_some_iff.mp h
  refine ⟨text, n, ?_, ?_⟩
  · unfold Value.textAndInt? at shape
    split at shape
    · cases shape
      rfl
    · exact nomatch shape
  · rw [← Option.isSome_map, read]
    rfl

theorem carets?_eq_some {v : Value} {found : UInt64 × UInt64} (h : carets? v = some found) :
    ∃ c a, v = .tuple [.int c, .int a] ∧ (position? c).isSome = true ∧
      (position? a).isSome = true := by
  obtain ⟨⟨c, a⟩, shape, read⟩ := Option.bind_eq_some_iff.mp h
  obtain ⟨caret, first, read⟩ := Option.bind_eq_some_iff.mp read
  refine ⟨c, a, ?_, Option.isSome_of_eq_some first, ?_⟩
  · unfold Value.intPair? at shape
    split at shape
    · cases shape
      rfl
    · exact nomatch shape
  · rw [← Option.isSome_map, read]
    rfl

/-! ## Results of hook methods -/

/-- What a method gives for some arguments besides the receiver, if there is one and
it ends with a value. -/
def gives? (t : HookTable) (catalog : Catalog) (method? : Option Signature) (args : List Value)
    (s : Shared) : Option Value :=
  method?.bind fun method =>
    ((Machine.mk t.assembly catalog).invoke method (t.withReceiver method args) s).value.elim
      some none

end HookTable

namespace Caller

variable {t : HookTable} {c : Caller} {event : Event}

/-- A caller of bound methods answers an event with what the method's result says, if
it says something, and else with the fallback. -/
theorem value_deliver {method? : Option Signature} {args : List Value}
    {read : Value → Option event.Answer} (handle : c.hooks.handle = t.handle)
    (bound : c.capabilities = t.capabilities) (binds : t.binds event.kind = method?.isSome)
    (called : t.call? event = method?.map (·, args))
    (reads : ∀ method result,
      (HookTable.answer method result event).1 = (read result).getD event.fallback)
    (ctx : Context) (s : Shared) :
    (c.deliver ctx event s).value.1 =
      ((t.gives? ctx.catalog method? args s).bind read).getD event.fallback := by
  have gated := gated_deliver c ctx event s
  rw [bound] at gated
  unfold Gated at gated
  rw [HookTable.handles_capabilities, binds] at gated
  cases method? with
  | none => exact gated.answer
  | some method =>
    have passed : c.Passed ctx event id event.fallback s _ _ := gated
    rw [passed.answer, turn, handle, HookTable.value_handle called, HookTable.gives?,
      Option.bind_some]
    cases ((Machine.mk t.assembly ctx.catalog).invoke method (t.withReceiver method args) s).value
      with
    | ok result => exact reads method result
    | error e => rfl
    | panic p => rfl

theorem value_deliver_inputEdit (handle : c.hooks.handle = t.handle)
    (bound : c.capabilities = t.capabilities) (ctx : Context) (input text : String)
    (caret : UInt64) (s : Shared) :
    (c.deliver ctx (.inputEdit input text caret) s).value.1 =
      ((t.gives? ctx.catalog t.inputEdit? [.str input, .str text, .int caret.toInt64] s).bind
        HookTable.edit?).getD (text, caret) := by
  refine value_deliver handle bound rfl rfl (fun method result => ?_) ctx s
  unfold HookTable.answer HookTable.edit?
  dsimp only
  cases result.textAndInt? <;> rfl

theorem value_deliver_caretMove (handle : c.hooks.handle = t.handle)
    (bound : c.capabilities = t.capabilities) (ctx : Context) (input text : String)
    (caret anchor : UInt64) (s : Shared) :
    (c.deliver ctx (.caretMove input text caret anchor) s).value.1 =
      ((t.gives? ctx.catalog t.caretMove?
        [.str input, .str text, .int caret.toInt64, .int anchor.toInt64] s).bind
        HookTable.carets?).getD (caret, anchor) := by
  refine value_deliver handle bound rfl rfl (fun method result => ?_) ctx s
  unfold HookTable.answer HookTable.carets?
  simp only [Option.map_eq_bind]
  rfl

end Caller

namespace HookTable

/-! ## Whole answers -/

section

variable {result : Option Value} {text new : String} {caret anchor : UInt64} {c a : Int64}

theorem edited_whole (given : result = some (.tuple [.str new, .int c])) (whole : 0 ≤ c)
    (old : String × UInt64) :
    ∃ p : UInt64, (p.toNat : Int) = c.toInt ∧ (result.bind edit?).getD old = (new, p) := by
  obtain ⟨p, position, same⟩ := position?_of_nonneg whole
  refine ⟨p, same, ?_⟩
  subst given
  show ((position? c).map (new, ·)).getD old = (new, p)
  rw [position]
  rfl

theorem edited_not (partly : ∀ new c, result = some (.tuple [.str new, .int c]) → c < 0)
    (old : String × UInt64) : (result.bind edit?).getD old = old := by
  cases held : result.bind edit? with
  | none => rfl
  | some found =>
    obtain ⟨v, rfl, read⟩ := Option.bind_eq_some_iff.mp held
    obtain ⟨new, n, rfl, position⟩ := edit?_eq_some read
    rw [position?_of_neg (partly new n rfl)] at position
    exact nomatch position

theorem edited_same (same : result = some (.tuple [.str text, .int caret.toInt64])) :
    (result.bind edit?).getD (text, caret) = (text, caret) := by
  subst same
  show ((position? caret.toInt64).map (text, ·)).getD (text, caret) = (text, caret)
  rcases position?_toInt64 caret with back | none
  · rw [back]; rfl
  · rw [none]; rfl

theorem moved_whole (given : result = some (.tuple [.int c, .int a])) (here : 0 ≤ c)
    (there : 0 ≤ a) (old : UInt64 × UInt64) :
    ∃ p q : UInt64, (p.toNat : Int) = c.toInt ∧ (q.toNat : Int) = a.toInt ∧
      (result.bind carets?).getD old = (p, q) := by
  obtain ⟨p, first, same⟩ := position?_of_nonneg here
  obtain ⟨q, second, same'⟩ := position?_of_nonneg there
  refine ⟨p, q, same, same', ?_⟩
  subst given
  show ((position? c).bind fun caret => (position? a).map (caret, ·)).getD old = (p, q)
  rw [first, second]
  rfl

theorem moved_not (partly : ∀ c a, result = some (.tuple [.int c, .int a]) → c < 0 ∨ a < 0)
    (old : UInt64 × UInt64) : (result.bind carets?).getD old = old := by
  cases held : result.bind carets? with
  | none => rfl
  | some found =>
    obtain ⟨v, rfl, read⟩ := Option.bind_eq_some_iff.mp held
    obtain ⟨c, a, rfl, first, second⟩ := carets?_eq_some read
    rcases partly c a rfl with negative | negative
    · rw [position?_of_neg negative] at first
      exact nomatch first
    · rw [position?_of_neg negative] at second
      exact nomatch second

theorem moved_same (same : result = some (.tuple [.int caret.toInt64, .int anchor.toInt64])) :
    (result.bind carets?).getD (caret, anchor) = (caret, anchor) := by
  subst same
  show ((position? caret.toInt64).bind fun c => (position? anchor.toInt64).map (c, ·)).getD
    (caret, anchor) = (caret, anchor)
  rcases position?_toInt64 caret with back | none
  · rcases position?_toInt64 anchor with back' | none'
    · rw [back, back']; rfl
    · rw [back, none']; rfl
  · rw [none]; rfl

end

end HookTable

namespace Session

theorem value_withCaller {α : Type} {s : Session} {key : Key} {c : Caller}
    (found : s.callers.get? key = some c) (f : Caller → Context → Flow Shared (α × Caller)) :
    (withCaller key f s).value = .ok (f c { key, catalog := s.catalog } s.shared).value.1 := by
  rw [withCaller, found]

/-- A caret that was put behind the end of its text is at the end. -/
theorem toNat_clampCaret (text : String) (caret : UInt64) :
    (clampCaret text caret).toNat = min caret.toNat text.length := by
  have small : min caret.toNat text.length < 2 ^ 64 :=
    Nat.lt_of_le_of_lt (Nat.min_le_left _ _) caret.toNat_lt
  rw [clampCaret, UInt64.toNat_ofNat', Nat.mod_eq_of_lt small]

/-- Whatever has been done to a session, moves and edits in the inputs of a mod that
was loaded with an assembly are answered by the mod's bound methods, and only by
results that are a pair of the right kind: two numbers that are not negative, or a
text and such a number.  Everything else, no method, a failure, a panic, another
value or a negative number in either place, leaves things as they were, which for a
caret means not behind the end of its text.  So hooks that give back what they were
given change nothing, even if it was too large for them. -/
theorem positions_relayed (config : Config) (catalog : Catalog) (run : List Act) (key : Key)
    (d : Descriptor) {assembly : Assembly} (given : d.hooks = none)
    (brought : d.assembly = some assembly)
    (loaded : Session.lastLoaded? { config, catalog } key run = some d)
    (present : key ∈ (Session.afterActs { config, catalog } run).callers.keys)
    (input text : String) (caret anchor : UInt64) :
    let s := Session.afterActs { config, catalog } run
    let t := d.table key assembly { config, catalog }
    let kept := clampCaret text caret
    let move := (moveCaret key input text caret anchor s).value
    let moved := t.gives? catalog t.caretMove?
      [.str input, .str text, .int kept.toInt64, .int anchor.toInt64] s.shared
    let edit := (editInput key input text caret s).value
    let edited := t.gives? catalog t.inputEdit?
      [.str input, .str text, .int caret.toInt64] s.shared
    kept.toNat = min caret.toNat text.length ∧
      (∀ c a : Int64, moved = some (.tuple [.int c, .int a]) → 0 ≤ c → 0 ≤ a →
        ∃ p q : UInt64, (p.toNat : Int) = c.toInt ∧ (q.toNat : Int) = a.toInt ∧
          move = .ok (p, q)) ∧
      ((∀ c a, moved = some (.tuple [.int c, .int a]) → c < 0 ∨ a < 0) →
        move = .ok (kept, anchor)) ∧
      (moved = some (.tuple [.int kept.toInt64, .int anchor.toInt64]) →
        move = .ok (kept, anchor)) ∧
      (∀ (new : String) (c : Int64), edited = some (.tuple [.str new, .int c]) → 0 ≤ c →
        ∃ p : UInt64, (p.toNat : Int) = c.toInt ∧ edit = .ok (new, p)) ∧
      ((∀ new c, edited = some (.tuple [.str new, .int c]) → c < 0) → edit = .ok (text, caret)) ∧
      (edited = some (.tuple [.str text, .int caret.toInt64]) → edit = .ok (text, caret)) := by
  intro s t kept move moved edit edited
  have made := made_after config catalog run
  obtain ⟨c, found⟩ := Attachments.mem_keys.mp present
  obtain ⟨d', same, recalls⟩ := made.callers key c found
  cases loaded.symm.trans same
  have hooks : (chooseHooks d key { config, catalog }).value = t.hooks :=
    value_chooseHooks given brought _
  obtain ⟨memory, shape⟩ := recalls
  rw [Descriptor.caller, hooks] at shape
  have handle : c.hooks.handle = t.handle := by rw [shape]; rfl
  have bound : c.capabilities = t.capabilities := by rw [shape]; rfl
  have moves : move = .ok ((moved.bind HookTable.carets?).getD (kept, anchor)) := by
    have answered := Caller.value_deliver_caretMove handle bound { key, catalog } input text kept
      anchor s.shared
    show (withCaller key _ s).value = _
    rw [value_withCaller found, made.offers, answered]
    rfl
  have edits : edit = .ok ((edited.bind HookTable.edit?).getD (text, caret)) := by
    have answered := Caller.value_deliver_inputEdit handle bound { key, catalog } input text caret
      s.shared
    show (withCaller key _ s).value = _
    rw [value_withCaller found, made.offers, answered]
    rfl
  rw [moves, edits]
  refine ⟨toNat_clampCaret text caret, fun c a pair here there => ?_, fun partly => ?_,
    fun same => ?_, fun new c pair whole => ?_, fun partly => ?_, fun same => ?_⟩
  · obtain ⟨p, q, first, second, read⟩ := HookTable.moved_whole pair here there (kept, anchor)
    exact ⟨p, q, first, second, congrArg _ read⟩
  · exact congrArg _ (HookTable.moved_not partly _)
  · exact congrArg _ (HookTable.moved_same same)
  · obtain ⟨p, same, read⟩ := HookTable.edited_whole pair whole (text, caret)
    exact ⟨p, same, congrArg _ read⟩
  · exact congrArg _ (HookTable.edited_not partly _)
  · exact congrArg _ (HookTable.edited_same same)

def samplePages : Descriptor where
  name := "Pages"
  displayName := "Pages"
  mainType := .samplePage
  assembly := some Assembly.samplePages

/-- A hook for carets that exchanges caret and anchor, and one for edits that has a
text of its own. -/
def sampleFields : Descriptor where
  name := "Fields"
  displayName := "Fields"
  mainType := .samplePanel
  assembly := some {
    name := "Fields"
    classes := [
      { type := .samplePanel
        declarations := [
          { name := EventKind.caretMove.hookName, params := [.string, .string, .int, .int]
            result := .tuple [.int, .int]
            body := .native fun args => .pure (.tuple (args.drop 3).reverse) },
          { name := EventKind.inputEdit.hookName, params := [.string, .string, .int]
            result := .tuple [.string, .int], isStatic := true
            body := .native fun _ => .pure (.tuple [.str "Untitled", .int 2]) }] }] }

def sampleUnbridged : Config := { bridge := { enabled := false } }

/-- The first mod's hook gives back the caret and anchor that it was given.  An anchor
that it took for a negative number stays where it was, and the caret is at the end of
the text.  The other mod's hooks are heard. -/
theorem positions_relayed_sample :
    let after (d : Descriptor) :=
      Session.afterActs { config := sampleUnbridged, catalog := .standard } [.operation (.load d)]
    (moveCaret (.entry 1 1) "Title" "abc" 7 0x8000000000000005 (after samplePages)).value =
        .ok (3, 0x8000000000000005) ∧
      (moveCaret (.entry 1 1) "Title" "abc" 7 1 (after sampleFields)).value = .ok (1, 3) ∧
      (editInput (.entry 1 1) "Title" "abc" 1 (after sampleFields)).value =
        .ok ("Untitled", 2) := by
  intro after
  obtain ⟨_, _, _, same, _⟩ := positions_relayed sampleUnbridged .standard
    [.operation (.load samplePages)] (.entry 1 1) samplePages rfl rfl rfl
    (List.mem_singleton.mpr rfl) "Title" "abc" 7 0x8000000000000005
  obtain ⟨_, moves, _⟩ := positions_relayed sampleUnbridged .standard
    [.operation (.load sampleFields)] (.entry 1 1) sampleFields rfl rfl rfl
    (List.mem_singleton.mpr rfl) "Title" "abc" 7 1
  obtain ⟨_, _, _, _, edits, _⟩ := positions_relayed sampleUnbridged .standard
    [.operation (.load sampleFields)] (.entry 1 1) sampleFields rfl rfl rfl
    (List.mem_singleton.mpr rfl) "Title" "abc" 1 0
  obtain ⟨p, q, first, second, moved⟩ := moves 1 3 rfl (by decide) (by decide)
  obtain ⟨p', third, edited⟩ := edits "Untitled" 2 rfl (by decide)
  have value {u v : UInt64} {n : Int64} (is : (u.toNat : Int) = n.toInt)
      (goal : n.toInt = (v.toNat : Int)) : u = v :=
    UInt64.toNat_inj.mp (Int.ofNat.inj (is.trans goal))
  obtain rfl : p = 1 := value first (by decide)
  obtain rfl : q = 3 := value second (by decide)
  obtain rfl : p' = 2 := value third (by decide)
  exact ⟨same rfl, moved, edited⟩

end Session
end ModSettings
