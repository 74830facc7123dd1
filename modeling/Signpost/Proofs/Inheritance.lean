import Mathlib.Data.Finset.Card
import Signpost.Mapping.Source

/-!
# Inheritance

What a handler does not declare itself is looked for on its parent, then on the parent of this one,
and so on. Nothing but the handlers themselves bounds this search: it ends for every handler if no
handler inherits from itself, directly or through others, and it may not end otherwise. It is made
for a method and for a mapping apart, so that the two may be found on different handlers. The
mapping of a method begins with what is found from the handler that the method is called on.

## Main definitions

* `HandlerTable.ancestor?`: the handler some parents above a handler.
* `HandlerTable.IsAcyclic`: no handler inherits from itself.
* `HandlerTable.Finds`: a search, which may not end.
* `HandlerTable.IsNearest`: the first handler on the way up that has a property.

## Main results

* `HandlerTable.isAcyclic_iff`: it is enough to follow every handler as many parents as there are
  handlers.
* `HandlerTable.finds_some_iff`, `HandlerTable.finds_none_iff`: what a search finds.
* `HandlerTable.not_finds_of_cycle`: a search that does not end.
* `HandlerTable.IsAcyclic.finds_iff`: without a cycle every search ends.
* `HandlerTable.finds_nearest`: the method, the mapping, and the mapping of the method.
-/

namespace Signpost

namespace Handler

variable {handler : Handler} {name : Text} {method : Method}

/-- The handler itself declares a method of that name. -/
def Declares (handler : Handler) (name : Text) : Prop :=
  ∃ method ∈ handler.methods, method.name = name

/-- The method is the first one of that name that the handler itself declares. -/
def DeclaresFirst (handler : Handler) (name : Text) (method : Method) : Prop :=
  ∃ before after, handler.methods = before ++ method :: after ∧ method.name = name ∧
    ∀ earlier ∈ before, earlier.name ≠ name

/-- The first method of a given name that the handler itself declares. -/
def ownMethod? (handler : Handler) (name : Text) : Option Method :=
  handler.methods.find? (·.name = name)

theorem ownMethod?_eq_some_iff :
    handler.ownMethod? name = some method ↔ handler.DeclaresFirst name method := by
  simp only [ownMethod?, DeclaresFirst, List.find?_eq_some_iff_append]
  constructor
  · rintro ⟨hname, before, after, hmethods, hbefore⟩
    exact ⟨before, after, hmethods, of_decide_eq_true hname, by simpa using hbefore⟩
  · rintro ⟨before, after, hmethods, hname, hbefore⟩
    exact ⟨decide_eq_true hname, before, after, hmethods, by simpa using hbefore⟩

theorem ownMethod?_eq_none_iff : handler.ownMethod? name = none ↔ ¬handler.Declares name := by
  simp [ownMethod?, Declares]

end Handler

namespace HandlerTable

/-! ### The handlers above a handler -/

/-- The handler `steps` parents above a handler. -/
def ancestor? (table : HandlerTable) (handler : Handler) : (steps : Nat) → Option Handler
  | 0 => some handler
  | steps + 1 => (table.parent? handler).bind (table.ancestor? · steps)

/-- No handler inherits from itself, directly or through others. -/
def IsAcyclic (table : HandlerTable) : Prop :=
  ∀ handler steps, table.ancestor? handler (steps + 1) ≠ some handler

variable {table : HandlerTable} {handler parent ancestor : Handler}

theorem ancestor?_add (steps more : Nat) :
    table.ancestor? handler (steps + more) =
      (table.ancestor? handler steps).bind (table.ancestor? · more) := by
  induction steps generalizing handler with
  | zero => rw [Nat.zero_add, ancestor?, Option.bind_some]
  | succ steps ih =>
    rw [Nat.succ_add, ancestor?, ancestor?, Option.bind_assoc]
    exact Option.bind_congr fun parent _ => ih

theorem ancestor?_succ (hparent : table.parent? handler = some parent) (steps : Nat) :
    table.ancestor? handler (steps + 1) = table.ancestor? parent steps := by
  rw [ancestor?, hparent, Option.bind_some]

theorem ancestor?_succ_eq_none (hparent : table.parent? handler = none) (steps : Nat) :
    table.ancestor? handler (steps + 1) = none := by
  rw [ancestor?, hparent, Option.bind_none]

/-- Where the way up has ended there is nothing further up. -/
theorem ancestor?_eq_none_of_le {steps more : Nat} (h : table.ancestor? handler steps = none)
    (hle : steps ≤ more) : table.ancestor? handler more = none := by
  obtain ⟨further, rfl⟩ := Nat.exists_eq_add_of_le hle
  rw [ancestor?_add, h, Option.bind_none]

/-- There is a handler at every step of the way to a handler. -/
theorem exists_ancestor?_of_le {steps fewer : Nat}
    (h : table.ancestor? handler steps = some ancestor) (hle : fewer ≤ steps) :
    ∃ nearer, table.ancestor? handler fewer = some nearer := by
  refine Option.ne_none_iff_exists'.mp fun hnone => ?_
  exact absurd (h.symm.trans (ancestor?_eq_none_of_le hnone hle)) (by simp)

/-- A handler that comes back to itself does so again and again. -/
theorem ancestor?_mul_of_cycle {steps : Nat} (h : table.ancestor? handler steps = some handler)
    (times : Nat) : table.ancestor? handler (times * steps) = some handler := by
  induction times with
  | zero => rw [Nat.zero_mul, ancestor?]
  | succ times ih => rw [Nat.succ_mul, ancestor?_add, ih, Option.bind_some, h]

/-- A parent that has a parent itself is one of the handlers of the table. -/
theorem mem_handlers_of_parent? (h : table.parent? handler = some parent)
    (hparent : table.parent? parent ≠ none) : parent ∈ table.handlers := by
  obtain ⟨type, -, rfl⟩ := Option.map_eq_some_iff.mp h
  cases hfound : table.handlers.find? (·.type = type) with
  | some found =>
    rw [describe, hfound]
    exact List.mem_of_find?_eq_some hfound
  | none =>
    rw [describe, hfound] at hparent
    exact absurd rfl hparent

/-- A handler has a parent where the way up goes on behind it. -/
theorem parent?_ne_none {steps : Nat} (h : table.ancestor? handler steps = some ancestor)
    (hnext : table.ancestor? handler (steps + 1) ≠ none) : table.parent? ancestor ≠ none := by
  intro hnone
  rw [ancestor?_add, h, Option.bind_some, ancestor?, hnone, Option.bind_none] at hnext
  exact hnext rfl

/-- What is above a handler and has a parent itself is one of the handlers of the table. -/
theorem mem_handlers_of_ancestor?_succ {steps : Nat}
    (h : table.ancestor? handler (steps + 1) = some ancestor)
    (hparent : table.parent? ancestor ≠ none) : ancestor ∈ table.handlers := by
  obtain ⟨child, hchild⟩ := exists_ancestor?_of_le h (Nat.le_succ steps)
  rw [ancestor?_add, hchild, Option.bind_some, ancestor?] at h
  obtain ⟨parent, hup, hsame⟩ := Option.bind_eq_some_iff.mp h
  obtain rfl := Option.some_inj.mp hsame
  exact mem_handlers_of_parent? hup hparent

/-- On the way up from a handler of the table, only the last one may be none of its handlers. -/
theorem exists_mem_handlers_of_le {steps fewer : Nat} (hmem : handler ∈ table.handlers)
    (h : table.ancestor? handler (steps + 1) = some ancestor) (hle : fewer ≤ steps) :
    ∃ nearer ∈ table.handlers, table.ancestor? handler fewer = some nearer := by
  obtain ⟨nearer, hnearer⟩ := exists_ancestor?_of_le h (Nat.le_succ_of_le hle)
  obtain ⟨above, habove⟩ := exists_ancestor?_of_le h (Nat.succ_le_succ hle)
  refine ⟨nearer, ?_, hnearer⟩
  cases fewer with
  | zero => exact Option.some_inj.mp hnearer ▸ hmem
  | succ fewer =>
    refine mem_handlers_of_ancestor?_succ hnearer (parent?_ne_none hnearer ?_)
    exact habove ▸ Option.some_ne_none above

/-! ### Tables without a cycle -/

/-- Without a cycle no handler is met twice on the way up. -/
theorem IsAcyclic.ancestor?_ne_of_lt (hacyclic : table.IsAcyclic) {steps more : Nat}
    (hlt : steps < more) (h : table.ancestor? handler steps = some ancestor) :
    table.ancestor? handler more ≠ some ancestor := by
  intro hagain
  obtain ⟨further, rfl⟩ := Nat.exists_eq_add_of_lt hlt
  rw [Nat.add_assoc, ancestor?_add, h, Option.bind_some] at hagain
  exact hacyclic ancestor further hagain

/-- Without a cycle the way up from a handler of the table ends after as many steps as there are
handlers, or one step later at a handler that was never described. -/
theorem IsAcyclic.ancestor?_eq_none_of_mem (hacyclic : table.IsAcyclic)
    (hmem : handler ∈ table.handlers) :
    table.ancestor? handler (table.handlers.length + 1) = none := by
  by_contra hlast
  obtain ⟨last, hlast⟩ := Option.ne_none_iff_exists'.mp hlast
  -- There are more steps than handlers, so that one handler is met twice.
  have hcard : (table.handlers.map some).toFinset.card <
      (Finset.range (table.handlers.length + 1)).card := by
    rw [Finset.card_range]
    exact Nat.lt_succ_of_le ((List.toFinset_card_le _).trans_eq (List.length_map some))
  have hstep (steps : Nat) (hsteps : steps ∈ Finset.range (table.handlers.length + 1)) :
      ∃ nearer ∈ table.handlers, table.ancestor? handler steps = some nearer :=
    exists_mem_handlers_of_le hmem hlast (Nat.le_of_lt_succ (Finset.mem_range.mp hsteps))
  have hmaps (steps : Nat) (hsteps : steps ∈ Finset.range (table.handlers.length + 1)) :
      table.ancestor? handler steps ∈ (table.handlers.map some).toFinset := by
    obtain ⟨nearer, hnearer, hfound⟩ := hstep steps hsteps
    rw [hfound]
    exact List.mem_toFinset.mpr (List.mem_map_of_mem hnearer)
  obtain ⟨i, hi, j, -, hne, hsame⟩ := Finset.exists_ne_map_eq_of_card_lt_of_maps_to hcard hmaps
  obtain ⟨nearer, -, hfound⟩ := hstep i hi
  rcases Nat.lt_or_gt_of_ne hne with hlt | hgt
  · exact hacyclic.ancestor?_ne_of_lt hlt hfound (hsame.symm.trans hfound)
  · exact hacyclic.ancestor?_ne_of_lt hgt (hsame.symm.trans hfound) hfound

/-- Without a cycle the way up ends for every handler. -/
theorem IsAcyclic.ancestor?_eq_none (hacyclic : table.IsAcyclic) (handler : Handler) :
    table.ancestor? handler (table.handlers.length + 2) = none := by
  rw [ancestor?]
  refine Option.bind_eq_none_iff.mpr fun parent hparent => ?_
  by_cases hup : table.parent? parent = none
  · have hend : table.ancestor? parent 1 = none := by
      rw [ancestor?, hup, Option.bind_none]
    exact ancestor?_eq_none_of_le hend (Nat.le_add_left 1 _)
  · exact hacyclic.ancestor?_eq_none_of_mem (mem_handlers_of_parent? hparent hup)

/-- A table is without a cycle if the way up from each of its handlers ends, for which it is enough
to follow as many parents as there are handlers, and one more. -/
theorem isAcyclic_iff :
    table.IsAcyclic ↔
      ∀ handler ∈ table.handlers, table.ancestor? handler (table.handlers.length + 1) = none := by
  refine ⟨fun hacyclic handler => hacyclic.ancestor?_eq_none_of_mem,
    fun hends handler steps h => ?_⟩
  have hparent : table.parent? handler ≠ none := by
    obtain ⟨above, habove⟩ := exists_ancestor?_of_le h (Nat.le_add_left 1 steps)
    exact parent?_ne_none rfl (habove ▸ Option.some_ne_none above)
  have hagain := ancestor?_mul_of_cycle h (table.handlers.length + 1)
  rw [ancestor?_eq_none_of_le (hends handler (mem_handlers_of_ancestor?_succ h hparent))
    (Nat.le_mul_of_pos_right _ (Nat.succ_pos steps))] at hagain
  exact Option.some_ne_none handler hagain.symm

instance (table : HandlerTable) : Decidable table.IsAcyclic :=
  decidable_of_iff _ isAcyclic_iff.symm

/-- Two handlers that inherit from each other. -/
example : ¬IsAcyclic ⟨[{ type := "A".toList, parent := some "B".toList },
    { type := "B".toList, parent := some "A".toList }]⟩ := by
  decide

/-! ### Searches -/

/-- A search for a declaration that begins at a handler ends with `found`. It takes what the handler
itself declares (`own`), goes on at the parent if that is nothing, and ends with nothing where there
is no parent. -/
inductive Finds (table : HandlerTable) {α : Type} (own : Handler → Option α) :
    Handler → Option α → Prop
  | here {handler : Handler} {declared : α} (hown : own handler = some declared) :
    Finds table own handler (some declared)
  | above {handler parent : Handler} {found : Option α} (hown : own handler = none)
    (hparent : table.parent? handler = some parent) (h : Finds table own parent found) :
    Finds table own handler found
  | nowhere {handler : Handler} (hown : own handler = none)
    (hparent : table.parent? handler = none) : Finds table own handler none

/-- The handler `nearest`, which is `steps` parents above a handler, has the property `p`, and no
handler on the way to it has. -/
def IsNearestAt (table : HandlerTable) (p : Handler → Prop) (handler nearest : Handler)
    (steps : Nat) : Prop :=
  table.ancestor? handler steps = some nearest ∧ p nearest ∧
    ∀ fewer < steps, ∀ nearer ∈ table.ancestor? handler fewer, ¬p nearer

/-- The handler `nearest` is the first one with the property `p` among a handler and those it
inherits from. -/
def IsNearest (table : HandlerTable) (p : Handler → Prop) (handler nearest : Handler) : Prop :=
  ∃ steps, table.IsNearestAt p handler nearest steps

theorem isNearestAt_zero {p : Handler → Prop} {nearest : Handler} :
    table.IsNearestAt p handler nearest 0 ↔ p handler ∧ handler = nearest := by
  constructor
  · rintro ⟨hnearest, hp, -⟩
    obtain rfl := Option.some_inj.mp hnearest
    exact ⟨hp, rfl⟩
  · rintro ⟨hp, rfl⟩
    exact ⟨rfl, hp, fun fewer hfewer => absurd hfewer (Nat.not_lt_zero fewer)⟩

theorem isNearestAt_succ {p : Handler → Prop} {nearest : Handler} {steps : Nat} :
    table.IsNearestAt p handler nearest (steps + 1) ↔
      ¬p handler ∧ ∃ parent, table.parent? handler = some parent ∧
        table.IsNearestAt p parent nearest steps := by
  constructor
  · rintro ⟨hnearest, hp, hbefore⟩
    obtain ⟨parent, hparent, hnearest⟩ := Option.bind_eq_some_iff.mp hnearest
    refine ⟨hbefore 0 (Nat.succ_pos steps) handler rfl, parent, hparent, hnearest, hp,
      fun fewer hfewer nearer hnearer => ?_⟩
    exact hbefore (fewer + 1) (Nat.succ_lt_succ hfewer) nearer
      ((ancestor?_succ hparent fewer).trans hnearer)
  · rintro ⟨hnot, parent, hparent, hnearest, hp, hbefore⟩
    refine ⟨(ancestor?_succ hparent steps).trans hnearest, hp,
      fun fewer hfewer nearer hnearer => ?_⟩
    cases fewer with
    | zero => exact Option.some_inj.mp hnearer ▸ hnot
    | succ fewer =>
      exact hbefore fewer (Nat.lt_of_succ_lt_succ hfewer) nearer
        ((ancestor?_succ hparent fewer).symm.trans hnearer)

section

variable {α : Type} {own : Handler → Option α} {found : Option α} {declared : α}

/-- A search ends with one thing. -/
theorem Finds.unique {other : Option α} (h : table.Finds own handler found)
    (hother : table.Finds own handler other) : found = other := by
  induction h with
  | here hown =>
    cases hother with
    | here hother => exact hown.symm.trans hother
    | above hother | nowhere hother => exact absurd (hown.symm.trans hother) (by simp)
  | above hown hparent _ ih =>
    cases hother with
    | here hother => exact absurd (hown.symm.trans hother) (by simp)
    | above _ hother h => exact ih (Option.some_inj.mp (hparent.symm.trans hother) ▸ h)
    | nowhere _ hother => exact absurd (hparent.symm.trans hother) (by simp)
  | nowhere hown hparent =>
    cases hother with
    | here hother => exact absurd (hown.symm.trans hother) (by simp)
    | above _ hother => exact absurd (hparent.symm.trans hother) (by simp)
    | nowhere => rfl

/-- What a search finds is declared by the nearest handler that declares anything. -/
theorem Finds.exists_isNearest {p : Handler → Prop}
    (hp : ∀ handler, own handler = none ↔ ¬p handler) (h : table.Finds own handler found)
    (hfound : found = some declared) :
    ∃ nearest, table.IsNearest p handler nearest ∧ own nearest = some declared := by
  induction h with
  | @here handler _ hown =>
    have hdeclares : p handler := by
      by_contra hnot
      exact absurd (((hp handler).mpr hnot).symm.trans hown) (by simp)
    exact ⟨handler, ⟨0, isNearestAt_zero.mpr ⟨hdeclares, rfl⟩⟩, hown.trans hfound⟩
  | above hown hparent _ ih =>
    obtain ⟨nearest, ⟨steps, hnearest⟩, hdeclared⟩ := ih hfound
    exact ⟨nearest, ⟨steps + 1, isNearestAt_succ.mpr ⟨(hp _).mp hown, _, hparent, hnearest⟩⟩,
      hdeclared⟩
  | nowhere => exact absurd hfound (by simp)

theorem finds_some_iff {p : Handler → Prop} (hp : ∀ handler, own handler = none ↔ ¬p handler) :
    table.Finds own handler (some declared) ↔
      ∃ nearest, table.IsNearest p handler nearest ∧ own nearest = some declared := by
  refine ⟨fun h => h.exists_isNearest hp rfl, ?_⟩
  rintro ⟨nearest, ⟨steps, hnearest⟩, hdeclared⟩
  induction steps generalizing handler with
  | zero =>
    obtain ⟨-, rfl⟩ := isNearestAt_zero.mp hnearest
    exact .here hdeclared
  | succ steps ih =>
    obtain ⟨hnot, parent, hparent, hnearest⟩ := isNearestAt_succ.mp hnearest
    exact .above ((hp handler).mpr hnot) hparent (ih hnearest)

/-- Where a search finds nothing the way up ends, and no handler on it declares anything. -/
theorem Finds.exists_ancestor?_eq_none (h : table.Finds own handler found) (hfound : found = none) :
    (∃ steps, table.ancestor? handler steps = none) ∧
      ∀ steps, ∀ ancestor ∈ table.ancestor? handler steps, own ancestor = none := by
  induction h with
  | here => exact absurd hfound (by simp)
  | above hown hparent _ ih =>
    obtain ⟨⟨steps, hend⟩, hall⟩ := ih hfound
    refine ⟨⟨steps + 1, (ancestor?_succ hparent steps).trans hend⟩, fun steps ancestor h => ?_⟩
    cases steps with
    | zero => exact Option.some_inj.mp h ▸ hown
    | succ steps => exact hall steps ancestor ((ancestor?_succ hparent steps).symm.trans h)
  | nowhere hown hparent =>
    refine ⟨⟨1, ancestor?_succ_eq_none hparent 0⟩, fun steps ancestor h => ?_⟩
    cases steps with
    | zero => exact Option.some_inj.mp h ▸ hown
    | succ steps => exact absurd ((ancestor?_succ_eq_none hparent steps).symm.trans h) (by simp)

theorem finds_none_iff :
    table.Finds own handler none ↔
      (∃ steps, table.ancestor? handler steps = none) ∧
        ∀ steps, ∀ ancestor ∈ table.ancestor? handler steps, own ancestor = none := by
  refine ⟨fun h => h.exists_ancestor?_eq_none rfl, ?_⟩
  rintro ⟨⟨steps, hend⟩, hall⟩
  induction steps generalizing handler with
  | zero => exact absurd hend (Option.some_ne_none handler)
  | succ steps ih =>
    have hown : own handler = none := hall 0 handler rfl
    cases hparent : table.parent? handler with
    | none => exact .nowhere hown hparent
    | some parent =>
      rw [ancestor?_succ hparent] at hend
      refine .above hown hparent (ih (fun steps ancestor h => ?_) hend)
      exact hall (steps + 1) ancestor ((ancestor?_succ hparent steps).trans h)

/-- A search at a handler without a parent takes what this handler declares. -/
theorem finds_of_parent?_eq_none (hparent : table.parent? handler = none) :
    table.Finds own handler ([handler].findSome? own) := by
  rw [List.findSome?_singleton]
  cases hown : own handler with
  | some declared => exact .here hown
  | none => exact .nowhere hown hparent

/-- A search on a way up that ends takes the first declaration on it. -/
theorem finds_ancestryFrom {steps : Nat} (h : table.ancestor? handler (steps + 1) = none) :
    table.Finds own handler ((table.ancestryFrom handler steps).findSome? own) := by
  induction steps generalizing handler with
  | zero =>
    refine finds_of_parent?_eq_none ?_
    cases hparent : table.parent? handler with
    | none => rfl
    | some parent => exact absurd ((ancestor?_succ hparent 0).symm.trans h) (by simp [ancestor?])
  | succ steps ih =>
    rw [ancestryFrom]
    cases hparent : table.parent? handler with
    | none => exact finds_of_parent?_eq_none hparent
    | some parent =>
      rw [ancestor?_succ hparent] at h
      rw [List.findSome?_cons]
      cases hown : own handler with
      | some declared => exact .here hown
      | none => exact .above hown hparent (ih h)

/-- A search for what is not declared on the way up from a handler that inherits from itself does
not end. -/
theorem not_finds_of_cycle {steps : Nat}
    (hcycle : table.ancestor? handler (steps + 1) = some handler)
    (hown : ∀ steps, ∀ ancestor ∈ table.ancestor? handler steps, own ancestor = none) :
    ¬table.Finds own handler found := by
  intro h
  cases found with
  | none =>
    obtain ⟨⟨last, hend⟩, -⟩ := finds_none_iff.mp h
    have hagain := ancestor?_mul_of_cycle hcycle last
    rw [ancestor?_eq_none_of_le hend (Nat.le_mul_of_pos_right last (Nat.succ_pos steps))] at hagain
    exact Option.some_ne_none handler hagain.symm
  | some declared =>
    have hp (handler : Handler) : own handler = none ↔ ¬own handler ≠ none := not_not.symm
    obtain ⟨nearest, ⟨last, hnearest, hdeclares, -⟩, -⟩ := (finds_some_iff hp).mp h
    exact hdeclares (hown last nearest hnearest)

/-- Without a cycle every search ends, with the first declaration among the handler and those it
inherits from. -/
theorem IsAcyclic.finds_iff (hacyclic : table.IsAcyclic) :
    table.Finds own handler found ↔ found = (table.ancestry handler).findSome? own := by
  have h : table.Finds own handler ((table.ancestry handler).findSome? own) :=
    finds_ancestryFrom (hacyclic.ancestor?_eq_none handler)
  exact ⟨fun hfound => hfound.unique h, fun hfound => hfound ▸ h⟩

/-- Without a cycle, the first declaration among a handler and those it inherits from is that of the
nearest one that declares anything. -/
theorem IsAcyclic.findSome?_ancestry_eq_some_iff (hacyclic : table.IsAcyclic) {p : Handler → Prop}
    (hp : ∀ handler, own handler = none ↔ ¬p handler) :
    (table.ancestry handler).findSome? own = some declared ↔
      ∃ nearest, table.IsNearest p handler nearest ∧ own nearest = some declared := by
  rw [← finds_some_iff hp, hacyclic.finds_iff, eq_comm]

theorem IsAcyclic.findSome?_ancestry_eq_none_iff (hacyclic : table.IsAcyclic) :
    (table.ancestry handler).findSome? own = none ↔
      ∀ steps, ∀ ancestor ∈ table.ancestor? handler steps, own ancestor = none := by
  rw [eq_comm, ← hacyclic.finds_iff, finds_none_iff,
    and_iff_right ⟨_, hacyclic.ancestor?_eq_none handler⟩]

end

/-! ### Methods and mappings -/

open MappingSource (declaredAnswer?)

/-- **Nearest declarations.** Take any table without a cycle, any handler and any name. The way up
from the handler ends. The search for a method of that name ends with the first one that the nearest
handler with such a method declares, and with none if and only if no handler on the way declares
one. The search for a mapping ends with that of the nearest handler with a mapping, and with none if
and only if no handler on the way has one. The mapping of the method that was found, called on the
handler, is made of the nearest mapping to this handler, wherever the method is declared, and the
fragment of the method. -/
theorem finds_nearest (hacyclic : table.IsAcyclic) (handler : Handler) (name : Text) :
    table.ancestor? handler (table.handlers.length + 2) = none ∧
    ((∀ found, table.Finds (·.ownMethod? name) handler found ↔
        found = table.method? handler name) ∧
      (∀ method, table.method? handler name = some method ↔
        ∃ nearest, table.IsNearest (·.Declares name) handler nearest ∧
          nearest.DeclaresFirst name method) ∧
      (table.method? handler name = none ↔
        ∀ steps, ∀ ancestor ∈ table.ancestor? handler steps, ¬ancestor.Declares name)) ∧
    ((∀ found, table.Finds Handler.mapping handler found ↔ found = table.typeMapping? handler) ∧
      (∀ mapping, table.typeMapping? handler = some mapping ↔
        ∃ nearest, table.IsNearest (·.mapping ≠ none) handler nearest ∧
          nearest.mapping = some mapping) ∧
      (table.typeMapping? handler = none ↔
        ∀ steps, ∀ ancestor ∈ table.ancestor? handler steps, ancestor.mapping = none)) ∧
    ∀ declaring method, table.IsNearest (·.Declares name) handler declaring →
      declaring.DeclaresFirst name method →
        (∀ nearest base, table.IsNearest (·.mapping ≠ none) handler nearest →
          nearest.mapping = some base →
            declaredAnswer? table (.ofCall handler method) =
              Mapping.ofFragments (some base) method.mapping) ∧
        ((∀ steps, ∀ ancestor ∈ table.ancestor? handler steps, ancestor.mapping = none) →
          declaredAnswer? table (.ofCall handler method) =
            Mapping.ofFragments none method.mapping) := by
  have hmethods (handler : Handler) : handler.ownMethod? name = none ↔ ¬handler.Declares name :=
    Handler.ownMethod?_eq_none_iff
  have hmappings (handler : Handler) : handler.mapping = none ↔ ¬handler.mapping ≠ none :=
    not_not.symm
  have hmapping (mapping : Text) : table.typeMapping? handler = some mapping ↔
      ∃ nearest, table.IsNearest (·.mapping ≠ none) handler nearest ∧
        nearest.mapping = some mapping :=
    hacyclic.findSome?_ancestry_eq_some_iff hmappings
  have hundeclared : table.method? handler name = none ↔
      ∀ steps, ∀ ancestor ∈ table.ancestor? handler steps, ancestor.ownMethod? name = none :=
    hacyclic.findSome?_ancestry_eq_none_iff
  have hunmapped : table.typeMapping? handler = none ↔
      ∀ steps, ∀ ancestor ∈ table.ancestor? handler steps, ancestor.mapping = none :=
    hacyclic.findSome?_ancestry_eq_none_iff
  refine ⟨hacyclic.ancestor?_eq_none handler,
    ⟨fun found => hacyclic.finds_iff, fun method => ?_, ?_⟩,
    ⟨fun found => hacyclic.finds_iff, hmapping, hunmapped⟩,
    fun declaring method hdeclaring hmethod => ⟨fun nearest base hnearest hbase => ?_, fun h => ?_⟩⟩
  · refine (hacyclic.findSome?_ancestry_eq_some_iff hmethods).trans ?_
    simp only [Handler.ownMethod?_eq_some_iff]
  · simp only [hundeclared, hmethods]
  · rw [declaredAnswer?, (hmapping base).mpr ⟨nearest, hnearest, hbase⟩]
  · rw [declaredAnswer?, hunmapped.mpr h]

/-- A handler with a mapping and a method. -/
def entryHandler : Handler :=
  { type := "Entry".toList
    mapping := some "/entries".toList
    methods := [{ name := "show".toList, mapping := some "/{id}".toList }] }

/-- A handler that inherits the method and has a mapping of its own. -/
def staffHandler : Handler :=
  { type := "Staff".toList, mapping := some "/staff".toList, parent := some "Entry".toList }

/-- A handler that inherits both. -/
def managerHandler : Handler :=
  { type := "Manager".toList, parent := some "Staff".toList }

/-- The method is found two parents above, the mapping one parent above. -/
theorem finds_nearest_manager :
    let table : HandlerTable := ⟨[managerHandler, staffHandler, entryHandler]⟩
    table.IsAcyclic ∧ ∃ method,
      table.Finds (·.ownMethod? "show".toList) managerHandler (some method) ∧
      declaredAnswer? table (.ofCall managerHandler method) = some "/staff/{id}".toList ∧
      declaredAnswer? table (.ofCall entryHandler method) = some "/entries/{id}".toList := by
  intro table
  have hacyclic : table.IsAcyclic := by decide
  obtain ⟨-, ⟨hfinds, hmethod, -⟩, -, hanswer⟩ :=
    finds_nearest hacyclic managerHandler "show".toList
  let method : Method := { name := "show".toList, mapping := some "/{id}".toList }
  have hfound : table.method? managerHandler "show".toList = some method := by decide
  obtain ⟨declaring, hdeclaring, hfirst⟩ := (hmethod method).mp hfound
  refine ⟨hacyclic, method, (hfinds _).mpr hfound.symm, ?_, by decide⟩
  have hnearest : table.IsNearest (·.mapping ≠ none) managerHandler staffHandler := by
    refine ⟨1, rfl, by decide, fun fewer hfewer nearer hnearer => ?_⟩
    obtain rfl := Nat.lt_one_iff.mp hfewer
    obtain rfl := Option.some_inj.mp hnearer
    decide
  exact (hanswer declaring method hdeclaring hfirst).1 staffHandler _ hnearest rfl

end HandlerTable

end Signpost
