import Mathlib.Data.List.Basic
import Mathlib.Logic.Function.Basic
import Signpost.Recording

/-!
# How many recordings are kept

A program asks for stand-ins, calls methods on them and reads what they recorded. A recording that
is kept is shared by the stand-ins it was handed out for, so that they see it being cleared; one
that was pushed out is not handed out again. A program could tell how many recordings are kept by
going back to a stand-in after it has asked for another one with the same target and equal
arguments. One that never does reads the same as if every request made a recording of its own.

The *journal* of a program is what it reads in this case: a recording for each request, and the
request that each stand-in goes back to.

Arguments are equal if they are of the same types and display alike (`Argument.visible`). A recording
that is handed out again has the class-level arguments that it was made with. They are equal to those
of the request, but may be made of other values, which only a formatter tells apart. What is read is
the same for this equality, and the very same where a program makes no two requests with equal
arguments of different values.

## Main definitions

* `Recordings.Step`: what a program does with stand-ins.
* `Recordings.Run`, `Recordings.Run.reads`: the state of a run, and what a program reads in it.
* `Recordings.Journal`, `Recordings.Journal.reads`: the same with a recording for each request.
* `Recordings.IsDisciplined`: the program never goes back to a stand-in.
* `Recordings.IsUnambiguous`: class-level arguments that are equal are made of the same values.

## Main results

* `Recordings.Mirrors.step`: a step keeps the recordings in accord with the journal.
* `Recordings.Mirrors.map_visible_reads`: a disciplined program reads its journal.
* `Recordings.Run.answersOne_of_mem_reads`: what it reads was asked for.
* `Recordings.reads_ofCapacity_eq`: it cannot tell how many recordings are kept.
-/

namespace Signpost

namespace Recording

/-- What the recording is found by if it is kept. -/
def key (recording : Recording) : RecordingKey :=
  .of recording.target recording.parameters

/-- The recording, its class-level arguments as far as arguments are compared. -/
def visible (recording : Recording) : Recording :=
  { recording with parameters := recording.parameters.map Argument.visible }

/-- The recording after a call. -/
def afterCall (declaring : Handler) (method : Text) (arguments : List Argument)
    (recording : Recording) : Recording :=
  { recording with last := some { target := recording.target, declaring, method, arguments } }

/-- The recordings were made for the same target with the same class-level arguments. -/
def StartsAs (recording other : Recording) : Prop :=
  recording.target = other.target ∧ recording.parameters = other.parameters

/-- The recordings are found for the same: they are for the same target with class-level arguments
that count as equal. -/
def StartsLike (recording other : Recording) : Prop :=
  recording.target = other.target ∧ recording.key = other.key

/-- The recording is one that the key finds. -/
def IsUnder (handlers : HandlerTable) (recording : Recording) (key : RecordingKey) : Prop :=
  recording.target = handlers.describe key.type ∧ recording.key = key

variable {recording other another : Recording}

theorem StartsAs.startsLike (h : recording.StartsAs other) : recording.StartsLike other :=
  ⟨h.1, by rw [key, key, h.1, h.2]⟩

theorem StartsLike.symm (h : recording.StartsLike other) : other.StartsLike recording :=
  ⟨h.1.symm, h.2.symm⟩

theorem StartsLike.trans (h : recording.StartsLike other) (hother : other.StartsLike another) :
    recording.StartsLike another :=
  ⟨h.1.trans hother.1, h.2.trans hother.2⟩

theorem StartsLike.map_visible_eq (h : recording.StartsLike other) :
    recording.parameters.map Argument.visible = other.parameters.map Argument.visible :=
  (RecordingKey.mk.inj h.2).2

/-- Recordings that are found for the same and show the same call are compared as equal. -/
theorem StartsLike.visible_eq (h : recording.StartsLike other)
    (hlast : recording.last = other.last) : recording.visible = other.visible := by
  rw [visible, visible, h.map_visible_eq, h.1, hlast]

theorem StartsLike.last_afterCall (h : recording.StartsLike other) (declaring : Handler)
    (method : Text) (arguments : List Argument) :
    (recording.afterCall declaring method arguments).last =
      (other.afterCall declaring method arguments).last := by
  rw [afterCall, h.1]
  rfl

end Recording

theorem HandlerTable.type_describe (handlers : HandlerTable) (type : Text) :
    (handlers.describe type).type = type := by
  rw [describe]
  cases h : handlers.handlers.find? (·.type = type) with
  | none => rfl
  | some handler => simpa using List.find?_some h

/-- A key finds what was made for the request that it is the key of. -/
theorem Recording.isUnder_of_iff {handlers : HandlerTable} {recording : Recording} {type : Text}
    {parameters : List Argument} :
    recording.IsUnder handlers (.of (handlers.describe type) parameters) ↔
      recording.StartsLike { target := handlers.describe type, parameters } := by
  have htype : (RecordingKey.of (handlers.describe type) parameters).type = type :=
    handlers.type_describe type
  rw [IsUnder, htype]
  rfl

theorem Recording.StartsLike.isUnder {handlers : HandlerTable} {recording other : Recording}
    {key : RecordingKey} (h : recording.StartsLike other) (hother : other.IsUnder handlers key) :
    recording.IsUnder handlers key :=
  ⟨h.1.trans hother.1, h.2.trans hother.2⟩

namespace Recordings

/-! ### Programs -/

/-- What a program does with stand-ins. It names a handler by its type, and a stand-in by the number
of those it got before. -/
inductive Step where
  /-- A new stand-in for a handler. -/
  | start (type : Text) (parameters : List Argument)
  /-- A call on a stand-in, which gives a new one. -/
  | call (standIn : Nat) (declaring method : Text) (arguments : List Argument)
  /-- The target, the class-level arguments and the last call of a stand-in. -/
  | read (standIn : Nat)

/-- The recordings and the number of the recording behind each stand-in. -/
structure Run where
  recordings : Recordings
  numbers : List Nat := []

namespace Run

/-- What a stand-in shows. -/
def get? (run : Run) (standIn : Nat) : Option Recording :=
  run.numbers[standIn]?.bind run.recordings.get?

/-- The run after a step. -/
def step (handlers : HandlerTable) (run : Run) : Step → Run
  | .start type parameters =>
    let (number, recordings) := run.recordings.start (handlers.describe type) parameters
    ⟨recordings, run.numbers ++ [number]⟩
  | .call standIn declaring method arguments =>
    match run.numbers[standIn]? with
    | some number =>
      ⟨run.recordings.record number (handlers.describe declaring) method arguments,
        run.numbers ++ [number]⟩
    | none => run
  | .read _ => run

/-- What a program reads in a step. -/
def seen (run : Run) : Step → List (Option Recording)
  | .read standIn => [run.get? standIn]
  | .start _ _ | .call _ _ _ _ => []

/-- What a program reads from here on. -/
def reads (handlers : HandlerTable) (run : Run) : List Step → List (Option Recording)
  | [] => []
  | step :: rest => run.seen step ++ reads handlers (run.step handlers step) rest

end Run

/-- A recording for each request for a stand-in, and the request that each stand-in goes back to. -/
structure Journal where
  started : List Recording := []
  origins : List Nat := []

namespace Journal

/-- What a stand-in shows. -/
def get? (journal : Journal) (standIn : Nat) : Option Recording :=
  journal.origins[standIn]?.bind (journal.started[·]?)

/-- The journal after a step. -/
def step (handlers : HandlerTable) (journal : Journal) : Step → Journal
  | .start type parameters =>
    ⟨journal.started ++ [{ target := handlers.describe type, parameters }],
      journal.origins ++ [journal.started.length]⟩
  | .call standIn declaring method arguments =>
    match journal.origins[standIn]? with
    | some origin =>
      ⟨journal.started.modify origin
          (Recording.afterCall (handlers.describe declaring) method arguments),
        journal.origins ++ [origin]⟩
    | none => journal
  | .read _ => journal

/-- What a program reads in a step. -/
def seen (journal : Journal) : Step → List (Option Recording)
  | .read standIn => [journal.get? standIn]
  | .start _ _ | .call _ _ _ _ => []

/-- What a program reads from here on. -/
def reads (handlers : HandlerTable) (journal : Journal) : List Step → List (Option Recording)
  | [] => []
  | step :: rest => journal.seen step ++ reads handlers (journal.step handlers step) rest

/-- No request behind `origin` has the given key. -/
def IsLatest (journal : Journal) (origin : Nat) (key : RecordingKey) : Prop :=
  key ∉ (journal.started.map Recording.key).drop (origin + 1)

/-- The stand-in goes back to the latest request for its target and arguments. -/
def IsCurrent (journal : Journal) (standIn : Nat) : Prop :=
  ∃ origin ∈ journal.origins[standIn]?, ∃ recording ∈ journal.started[origin]?,
    journal.IsLatest origin recording.key

/-- The step uses no stand-in but a current one. -/
def Allows (journal : Journal) : Step → Prop
  | .start _ _ => True
  | .call standIn _ _ _ => journal.IsCurrent standIn
  | .read standIn => journal.IsCurrent standIn

instance (journal : Journal) (origin : Nat) (key : RecordingKey) :
    Decidable (journal.IsLatest origin key) :=
  inferInstanceAs (Decidable (_ ∉ _))

instance (journal : Journal) (standIn : Nat) : Decidable (journal.IsCurrent standIn) :=
  inferInstanceAs (Decidable (∃ origin ∈ journal.origins[standIn]?,
    ∃ recording ∈ journal.started[origin]?, journal.IsLatest origin recording.key))

instance (journal : Journal) : (step : Step) → Decidable (journal.Allows step)
  | .start _ _ => inferInstanceAs (Decidable True)
  | .call standIn _ _ _ | .read standIn => inferInstanceAs (Decidable (journal.IsCurrent standIn))

end Journal

/-- The program uses no stand-in after another one was started for the same target with equal
arguments. -/
def IsDisciplined (handlers : HandlerTable) : Journal → List Step → Prop
  | _, [] => True
  | journal, step :: rest =>
    journal.Allows step ∧ IsDisciplined handlers (journal.step handlers step) rest

instance decidableIsDisciplined (handlers : HandlerTable) :
    (journal : Journal) → (program : List Step) → Decidable (IsDisciplined handlers journal program)
  | _, [] => inferInstanceAs (Decidable True)
  | journal, step :: rest =>
    have := decidableIsDisciplined handlers (journal.step handlers step) rest
    inferInstanceAs (Decidable (_ ∧ _))

/-- The stand-ins that a program asks for: the types of their handlers, and the class-level
arguments. -/
def requests (program : List Step) : List (Text × List Argument) :=
  program.filterMap fun
    | .start type parameters => some (type, parameters)
    | .call _ _ _ _ | .read _ => none

/-- Where the program asks for the same with class-level arguments that count as equal, these are
made of the same values. -/
def IsUnambiguous (program : List Step) : Prop :=
  ∀ request ∈ requests program, ∀ other ∈ requests program, request.1 = other.1 →
    request.2.map Argument.visible = other.2.map Argument.visible → request.2 = other.2

instance (program : List Step) : Decidable (IsUnambiguous program) :=
  inferInstanceAs (Decidable (∀ request ∈ requests program, ∀ other ∈ requests program, _))

/-! ### The recordings and the journal -/

variable {handlers : HandlerTable} {journal : Journal} {run : Run} {place : Nat → Nat}

/-- What stands in a list with one more element is that element, or was there before. -/
theorem getElem?_concat_cases {α : Type} {list : List α} {new found : α} {place : Nat}
    (h : (list ++ [new])[place]? = some found) :
    place < list.length ∧ list[place]? = some found ∨ place = list.length ∧ new = found := by
  rw [List.getElem?_append] at h
  split at h
  · rename_i hlt
    exact .inl ⟨hlt, h⟩
  · rw [List.getElem?_singleton] at h
    split at h
    · exact .inr ⟨by omega, Option.some_inj.mp h⟩
    · exact absurd h (by simp)

theorem getElem?_modify_eq_some_iff {α : Type} {list : List α} {f : α → α} {changed place : Nat}
    {found : α} :
    (list.modify changed f)[place]? = some found ↔
      ∃ before, list[place]? = some before ∧
        (if changed = place then f before else before) = found := by
  rw [List.getElem?_modify]
  exact Option.map_eq_some_iff

namespace Journal

theorem IsLatest.ne {origin next : Nat} {key : RecordingKey} {later : Recording}
    (h : journal.IsLatest origin key) (hnext : origin < next)
    (hlater : journal.started[next]? = some later) : later.key ≠ key := by
  rintro rfl
  refine h (List.mem_iff_getElem?.mpr ⟨next - (origin + 1), ?_⟩)
  rw [List.getElem?_drop, Nat.add_sub_cancel' hnext, List.getElem?_map, hlater]
  rfl

/-- One more request is behind all others. -/
theorem isLatest_concat_iff {origin : Nat} {key : RecordingKey} {recording : Recording}
    {origins : List Nat} (horigin : origin < journal.started.length) :
    IsLatest ⟨journal.started ++ [recording], origins⟩ origin key ↔
      journal.IsLatest origin key ∧ key ≠ recording.key := by
  have hlength : origin + 1 ≤ (journal.started.map Recording.key).length := by
    rw [List.length_map]
    exact horigin
  rw [IsLatest, List.map_append, List.drop_append_of_le_length hlength, List.mem_append, not_or,
    List.map_singleton, List.mem_singleton, IsLatest]

/-- A call on a recording changes no key. -/
theorem isLatest_afterCall_iff {origin changed : Nat} {key : RecordingKey} {origins : List Nat}
    {declaring : Handler} {method : Text} {arguments : List Argument} :
    IsLatest ⟨journal.started.modify changed (.afterCall declaring method arguments), origins⟩
      origin key ↔ journal.IsLatest origin key := by
  have hkeys : (journal.started.modify changed (.afterCall declaring method arguments)).map
      Recording.key = journal.started.map Recording.key := by
    refine List.ext_getElem? fun place => ?_
    rw [List.getElem?_map, List.getElem?_map, List.getElem?_modify]
    cases journal.started[place]? with
    | none => rfl
    | some recording => split <;> rfl
  rw [IsLatest, IsLatest, hkeys]

end Journal

/-- The recordings of a run are in accord with a journal: `place` tells where the recording of each
request is. The latest one for its target and arguments shows the call that the journal has. -/
structure Mirrors (handlers : HandlerTable) (journal : Journal) (run : Run) (place : Nat → Nat) :
    Prop where
  numbers : run.numbers = journal.origins.map place
  origins : ∀ origin ∈ journal.origins, origin < journal.started.length
  shown : ∀ origin recording, journal.started[origin]? = some recording →
    ∃ shared, run.recordings.all[place origin]? = some shared ∧ shared.StartsLike recording ∧
      (journal.IsLatest origin recording.key → shared.last = recording.last)
  kept : ∀ key number, (key, number) ∈ run.recordings.kept →
    ∃ shared, run.recordings.all[number]? = some shared ∧ shared.IsUnder handlers key

theorem mirrors_ofCapacity (handlers : HandlerTable) (capacity : Nat) (place : Nat → Nat) :
    Mirrors handlers {} ⟨ofCapacity capacity, []⟩ place where
  numbers := rfl
  origins _ h := absurd h List.not_mem_nil
  shown _ _ h := absurd h (by simp)
  kept _ _ h := absurd h List.not_mem_nil

/-- A recording was handed out for what `fresh` was started with: one that had been found for the
same, which shows the call of `fresh` now, or `fresh` itself. Nothing else was touched, and nothing
else is kept that was not kept before. -/
structure HandsOut (before after : Recordings) (number : Nat) (fresh : Recording) : Prop where
  here :
    (∃ shared, before.all[number]? = some shared ∧ shared.StartsLike fresh ∧
        after.all[number]? = some { shared with last := fresh.last }) ∨
      before.all[number]? = none ∧ after.all[number]? = some fresh
  others : ∀ other ≠ number, after.all[other]? = before.all[other]?
  kept : ∀ entry ∈ after.kept, entry = (fresh.key, number) ∨ entry ∈ before.kept

namespace HandsOut

variable {before after : Recordings} {number : Nat} {fresh : Recording}

theorem exists_shown (h : HandsOut before after number fresh) :
    ∃ shared, after.all[number]? = some shared ∧ shared.StartsLike fresh ∧
      shared.last = fresh.last := by
  rcases h.here with ⟨shared, -, hstarts, hshown⟩ | ⟨-, hshown⟩
  · exact ⟨_, hshown, hstarts, rfl⟩
  · exact ⟨fresh, hshown, ⟨rfl, rfl⟩, rfl⟩

/-- The recording was shared by nothing but what is found for the same. -/
theorem startsLike (h : HandsOut before after number fresh) {recording : Recording}
    (hrecording : before.all[number]? = some recording) : recording.StartsLike fresh := by
  rcases h.here with ⟨shared, hshared, hstarts, -⟩ | ⟨hnone, -⟩
  · rwa [Option.some_inj.mp (hrecording.symm.trans hshared)]
  · exact absurd (hrecording.symm.trans hnone) (by simp)

end HandsOut

theorem mem_keep {recordings : Recordings} {key : RecordingKey} {number : Nat}
    {entry : RecordingKey × Nat} (h : entry ∈ recordings.keep key number) :
    entry = (key, number) ∨ entry ∈ recordings.kept :=
  (List.mem_cons.mp (List.mem_of_mem_take h)).imp_right List.mem_of_mem_filter

theorem mem_of_lookup_eq_some {kept : List (RecordingKey × Nat)} {key : RecordingKey} {number : Nat}
    (h : kept.lookup key = some number) : (key, number) ∈ kept := by
  obtain ⟨front, back, hsplit, -⟩ := List.lookup_eq_some_iff.mp h
  rw [hsplit]
  exact List.mem_append_right front List.mem_cons_self

/-- A request is answered with a recording that is kept under its key, or with a new one. -/
theorem fst_start (recordings : Recordings) (target : Handler) (parameters : List Argument) :
    (RecordingKey.of target parameters, (recordings.start target parameters).1) ∈
        recordings.kept ∨
      (recordings.start target parameters).1 = recordings.all.length := by
  rw [start]
  cases hlookup : recordings.kept.lookup (.of target parameters) with
  | some number => exact .inl (mem_of_lookup_eq_some hlookup)
  | none => exact .inr rfl

/-- What a request for a stand-in does, whatever is pushed out. -/
theorem handsOut_start {recordings : Recordings} {target : Handler} {parameters : List Argument}
    (hkept : ∀ number, (RecordingKey.of target parameters, number) ∈ recordings.kept →
      ∃ shared, recordings.all[number]? = some shared ∧ shared.StartsLike { target, parameters }) :
    HandsOut recordings (recordings.start target parameters).2
      (recordings.start target parameters).1 { target, parameters } := by
  rw [start]
  cases hlookup : recordings.kept.lookup (.of target parameters) with
  | some number =>
    obtain ⟨shared, hshared, hstarts⟩ := hkept number (mem_of_lookup_eq_some hlookup)
    refine ⟨.inl ⟨shared, hshared, hstarts, ?_⟩, fun other hother => ?_, fun entry => mem_keep⟩
    · exact getElem?_modify_eq_some_iff.mpr ⟨shared, hshared, if_pos rfl⟩
    · exact List.getElem?_modify_ne _ _ hother.symm
  | none =>
    refine ⟨.inr ⟨List.getElem?_eq_none (Nat.le_refl _), List.getElem?_concat_length⟩,
      fun other hother => ?_, fun entry => mem_keep⟩
    rcases Nat.lt_or_gt_of_ne hother with hlt | hgt
    · exact List.getElem?_append_left hlt
    · rw [List.getElem?_eq_none (Nat.le_of_lt hgt), List.getElem?_eq_none]
      rw [List.length_append, List.length_singleton]
      exact hgt

namespace Mirrors

variable (h : Mirrors handlers journal run place)

include h

/-- A current stand-in shows what the journal has. -/
theorem map_visible_get? {standIn : Nat} (hcurrent : journal.IsCurrent standIn) :
    (run.get? standIn).map Recording.visible = (journal.get? standIn).map Recording.visible := by
  obtain ⟨origin, horigin, recording, hrecording, hlatest⟩ := hcurrent
  rw [Option.mem_def] at horigin hrecording
  obtain ⟨shared, hshared, hstarts, hlast⟩ := h.shown origin recording hrecording
  have hrun : run.get? standIn = some shared := by
    simp [Run.get?, Recordings.get?, h.numbers, horigin, hshared]
  have hjournal : journal.get? standIn = some recording := by
    simp [Journal.get?, horigin, hrecording]
  rw [hrun, hjournal, Option.map_some, Option.map_some, hstarts.visible_eq (hlast hlatest)]

/-- The place of a new recording is told apart from those of the others. -/
theorem numbers_concat (number : Nat) :
    run.numbers ++ [number] =
      (journal.origins ++ [journal.started.length]).map
        (Function.update place journal.started.length number) := by
  have hothers : journal.origins.map (Function.update place journal.started.length number) =
      journal.origins.map place := by
    refine List.map_congr_left fun origin horigin => ?_
    exact Function.update_of_ne (Nat.ne_of_lt (h.origins origin horigin)) number place
  rw [h.numbers, List.map_append, List.map_singleton, Function.update_self, hothers]

/-- A request keeps the recordings in accord with the journal. -/
theorem start (type : Text) (parameters : List Argument) :
    ∃ place, Mirrors handlers (journal.step handlers (.start type parameters))
      (run.step handlers (.start type parameters)) place := by
  have hkept (number : Nat)
      (hnumber : (.of (handlers.describe type) parameters, number) ∈ run.recordings.kept) :
      ∃ shared, run.recordings.all[number]? = some shared ∧
        shared.StartsLike { target := handlers.describe type, parameters } := by
    obtain ⟨shared, hshared, hunder⟩ := h.kept _ number hnumber
    exact ⟨shared, hshared, Recording.isUnder_of_iff.mp hunder⟩
  have hout := handsOut_start hkept
  obtain ⟨handed, hhanded, hlike, hlast⟩ := hout.exists_shown
  refine ⟨_, h.numbers_concat _, fun origin horigin => ?_, fun origin recording hrecording => ?_,
    fun key number hkept => ?_⟩
  · simp only [Journal.step, List.mem_append, List.mem_singleton, List.length_append,
      List.length_singleton] at horigin ⊢
    rcases horigin with hold | rfl
    · exact Nat.lt_succ_of_lt (h.origins origin hold)
    · exact Nat.lt_succ_self _
  · rcases getElem?_concat_cases hrecording with ⟨hlt, hold⟩ | ⟨rfl, rfl⟩
    · obtain ⟨shared, hshared, hstarts, hsame⟩ := h.shown origin recording hold
      simp only [Function.update_of_ne (Nat.ne_of_lt hlt), Journal.step,
        Journal.isLatest_concat_iff hlt]
      by_cases hplace : place origin = (run.recordings.start (handlers.describe type) parameters).1
      · -- The recording is handed out again, so that its request is not the latest one any more.
        rw [hplace] at hshared ⊢
        have hfresh := hout.startsLike hshared
        exact ⟨handed, hhanded, hlike.trans (hfresh.symm.trans hstarts),
          fun hlatest => absurd (hstarts.2.symm.trans hfresh.2) hlatest.2⟩
      · exact ⟨shared, (hout.others _ hplace).trans hshared, hstarts,
          fun hlatest => hsame hlatest.1⟩
    · rw [Function.update_self]
      exact ⟨handed, hhanded, hlike, fun _ => hlast⟩
  · rcases hout.kept _ hkept with hnew | hold
    · obtain ⟨rfl, rfl⟩ := Prod.mk.inj hnew
      exact ⟨handed, hhanded, Recording.isUnder_of_iff.mpr hlike⟩
    · obtain ⟨shared, hshared, hunder⟩ := h.kept key number hold
      by_cases hplace : number = (run.recordings.start (handlers.describe type) parameters).1
      · rw [hplace] at hshared ⊢
        have hfresh := hout.startsLike hshared
        exact ⟨handed, hhanded, (hlike.trans hfresh.symm).isUnder hunder⟩
      · exact ⟨shared, (hout.others _ hplace).trans hshared, hunder⟩

/-- A call on a current stand-in keeps the recordings in accord with the journal. -/
theorem call {standIn : Nat} (hcurrent : journal.IsCurrent standIn) (declaring method : Text)
    (arguments : List Argument) :
    Mirrors handlers (journal.step handlers (.call standIn declaring method arguments))
      (run.step handlers (.call standIn declaring method arguments)) place := by
  obtain ⟨origin, horigin, recording, hrecording, hlatest⟩ := hcurrent
  rw [Option.mem_def] at horigin hrecording
  have hnumber : run.numbers[standIn]? = some (place origin) := by
    rw [h.numbers, List.getElem?_map, horigin, Option.map_some]
  obtain ⟨here, hhere, hlike, -⟩ := h.shown origin recording hrecording
  simp only [Journal.step, horigin, Run.step, hnumber]
  refine ⟨?_, fun other hother => ?_, fun other started hstarted => ?_, fun key number hkept => ?_⟩
  · rw [List.map_append, h.numbers, List.map_singleton]
  · rw [List.length_modify]
    rcases List.mem_append.mp hother with hold | hnew
    · exact h.origins other hold
    · rw [List.mem_singleton.mp hnew]
      exact (List.getElem?_eq_some_iff.mp hrecording).1
  · obtain ⟨before, hbefore, rfl⟩ := getElem?_modify_eq_some_iff.mp hstarted
    obtain ⟨shared, hshared, hstarts, hagree⟩ := h.shown other before hbefore
    refine ⟨_, getElem?_modify_eq_some_iff.mpr ⟨shared, hshared, rfl⟩, ?_, fun hlater => ?_⟩
    · split_ifs <;> exact hstarts
    · rw [Journal.isLatest_afterCall_iff] at hlater
      by_cases hother : origin = other
      · rw [if_pos hother, if_pos (congrArg place hother)]
        exact hstarts.last_afterCall _ _ _
      · rw [if_neg hother] at hlater
        rw [if_neg hother, if_neg, hagree hlater]
        -- Two requests share a recording only if one of them is not the latest of its kind.
        intro hplace
        obtain rfl := Option.some_inj.mp (hhere.symm.trans (hplace ▸ hshared))
        rcases Nat.lt_or_gt_of_ne hother with hlt | hgt
        · exact hlatest.ne hlt hbefore (hstarts.2.symm.trans hlike.2)
        · exact hlater.ne hgt hrecording (hlike.2.symm.trans hstarts.2)
  · obtain ⟨shared, hshared, hunder⟩ := h.kept key number hkept
    refine ⟨_, getElem?_modify_eq_some_iff.mpr ⟨shared, hshared, rfl⟩, ?_⟩
    split
    · exact hunder
    · exact hunder

/-- A step that uses no stand-in but a current one keeps the recordings in accord with the
journal. -/
theorem step {step : Step} (hallows : journal.Allows step) :
    ∃ place, Mirrors handlers (journal.step handlers step) (run.step handlers step) place := by
  cases step with
  | start type parameters => exact h.start type parameters
  | call standIn declaring method arguments => exact ⟨place, h.call hallows declaring method _⟩
  | read standIn => exact ⟨place, h⟩

/-- **A disciplined program reads its journal**, whatever is kept and whatever is pushed out. -/
theorem map_visible_reads {program : List Step}
    (hprogram : IsDisciplined handlers journal program) :
    (run.reads handlers program).map (Option.map Recording.visible) =
      (journal.reads handlers program).map (Option.map Recording.visible) := by
  induction program generalizing journal run place with
  | nil => rfl
  | cons step rest ih =>
    obtain ⟨hallows, hrest⟩ := hprogram
    obtain ⟨place, hnext⟩ := h.step hallows
    rw [Run.reads, Journal.reads, List.map_append, List.map_append, ih hnext hrest]
    congr 1
    cases step with
    | start type parameters => rfl
    | call standIn declaring method arguments => rfl
    | read standIn => exact congrArg (fun shown => [shown]) (h.map_visible_get? hallows)

end Mirrors

/-! ### The values that are read -/

/-- The recording has the target and the class-level arguments of a request. -/
def AnswersOne (handlers : HandlerTable) (asked : List (Text × List Argument))
    (recording : Recording) : Prop :=
  ∃ type, (type, recording.parameters) ∈ asked ∧ recording.target = handlers.describe type

/-- What a change keeps true of an element stays true of all elements of a list. -/
theorem forall_mem_modify {α : Type} {list : List α} {f : α → α} {p : α → Prop}
    (h : ∀ element ∈ list, p element) (hf : ∀ element, p element → p (f element)) (changed : Nat) :
    ∀ element ∈ list.modify changed f, p element := by
  intro element helement
  obtain ⟨place, hplace⟩ := List.mem_iff_getElem?.mp helement
  obtain ⟨before, hbefore, rfl⟩ := getElem?_modify_eq_some_iff.mp hplace
  have hold := h before (List.mem_of_getElem? hbefore)
  split
  · exact hf before hold
  · exact hold

variable {asked : List (Text × List Argument)}

theorem answersOne_start {recordings : Recordings} {type : Text} {parameters : List Argument}
    (h : ∀ recording ∈ recordings.all, AnswersOne handlers asked recording)
    (hasked : (type, parameters) ∈ asked) :
    ∀ recording ∈ (recordings.start (handlers.describe type) parameters).2.all,
      AnswersOne handlers asked recording := by
  rw [start]
  split
  · refine forall_mem_modify h ?_ _
    exact fun _ hold => hold
  · intro recording hrecording
    rcases List.mem_append.mp hrecording with hold | hnew
    · exact h recording hold
    · obtain rfl := List.mem_singleton.mp hnew
      exact ⟨type, hasked, rfl⟩

/-- A step leaves all recordings with the target and the class-level arguments of a request. -/
theorem Run.answersOne_step
    (h : ∀ recording ∈ run.recordings.all, AnswersOne handlers asked recording)
    {step : Step} (hstep : ∀ request ∈ requests [step], request ∈ asked) :
    ∀ recording ∈ (run.step handlers step).recordings.all, AnswersOne handlers asked recording := by
  cases step with
  | start type parameters => exact answersOne_start h (hstep _ List.mem_cons_self)
  | call standIn declaring method arguments =>
    rw [Run.step]
    split
    · refine forall_mem_modify h ?_ _
      exact fun _ hold => hold
    · exact h
  | read standIn => exact h

/-- What a program reads has the target and the class-level arguments of a request. -/
theorem Run.answersOne_of_mem_reads {program : List Step}
    (h : ∀ recording ∈ run.recordings.all, AnswersOne handlers asked recording)
    (hprogram : ∀ request ∈ requests program, request ∈ asked) {recording : Recording}
    (hread : some recording ∈ run.reads handlers program) :
    AnswersOne handlers asked recording := by
  induction program generalizing run with
  | nil => exact absurd hread List.not_mem_nil
  | cons step rest ih =>
    have hrequests : requests (step :: rest) = requests [step] ++ requests rest := by
      rw [requests, ← List.singleton_append, List.filterMap_append]
      rfl
    rw [hrequests, List.forall_mem_append] at hprogram
    rcases List.mem_append.mp hread with hseen | hlater
    · cases step with
      | start type parameters => exact absurd hseen List.not_mem_nil
      | call standIn declaring method arguments => exact absurd hseen List.not_mem_nil
      | read standIn =>
        obtain ⟨number, -, hnumber⟩ := Option.bind_eq_some_iff.mp (List.mem_singleton.mp hseen).symm
        exact h recording (List.mem_of_getElem? hnumber)
    · exact ih (Run.answersOne_step h hprogram.1) hprogram.2 hlater

/-- Recordings for the requests of an unambiguous program are the very same if they compare as
equal. -/
theorem IsUnambiguous.eq_of_visible_eq {program : List Step} (h : IsUnambiguous program)
    {recording other : Recording} (hrecording : AnswersOne handlers (requests program) recording)
    (hother : AnswersOne handlers (requests program) other)
    (hvisible : recording.visible = other.visible) : recording = other := by
  obtain ⟨type, hrequest, hdescribed⟩ := hrecording
  obtain ⟨otherType, hotherRequest, hotherDescribed⟩ := hother
  obtain ⟨htarget, hparameters, hlast⟩ := Recording.mk.inj hvisible
  have htype : type = otherType := by
    rw [← handlers.type_describe type, ← handlers.type_describe otherType, ← hdescribed,
      ← hotherDescribed, htarget]
  have hsame : recording.parameters = other.parameters :=
    h _ hrequest _ hotherRequest htype hparameters
  calc
    recording = ⟨recording.target, recording.parameters, recording.last⟩ := rfl
    _ = ⟨other.target, other.parameters, other.last⟩ := by rw [htarget, hsame, hlast]
    _ = other := rfl

/-- Lists with equal images are equal if only equal elements of theirs have equal images. -/
theorem eq_of_map_eq {α β : Type} {f : α → β} {list other : List α}
    (hf : ∀ a ∈ list, ∀ b ∈ other, f a = f b → a = b) (h : list.map f = other.map f) :
    list = other := by
  induction list generalizing other with
  | nil => exact (List.map_eq_nil_iff.mp h.symm).symm
  | cons first rest ih =>
    obtain ⟨second, others, rfl, hfirst, hrest⟩ := List.map_eq_cons_iff.mp h.symm
    have hothers : rest = others :=
      ih (fun a ha b hb => hf a (List.mem_cons_of_mem _ ha) b (List.mem_cons_of_mem _ hb))
        hrest.symm
    rw [hothers, hf first List.mem_cons_self second List.mem_cons_self hfirst.symm]

/-- Two stand-ins for one handler with a stand-in for another handler between them, and calls on all
of them. -/
def ordersProgram : List Step :=
  [.start "Order".toList [], .call 0 "Order".toList "show".toList [.absent],
    .start "Item".toList [], .read 1, .start "Order".toList [], .read 3,
    .call 2 "Item".toList "list".toList [], .read 4,
    .call 3 "Order".toList "items".toList [], .call 5 "Item".toList "show".toList [.absent],
    .read 3, .read 2]

/-- An identifier that displays as its number, whatever shard the order is in. -/
def orderId (number shard : String) : Argument :=
  .scalar ⟨"OrderId".toList, ⟨number.toList, shard.toList⟩⟩

/-- Two stand-ins for one handler with equal arguments that are made of different values, and a
stand-in for another handler between them. -/
def shardsProgram : List Step :=
  [.start "Order".toList [orderId "7" "north"], .start "Item".toList [],
    .start "Order".toList [orderId "7" "south"], .read 2,
    .call 2 "Order".toList "show".toList [orderId "8" "south"], .read 3]

/-- The class-level argument may be made of the value of the earlier request. -/
example :
    Run.reads {} ⟨ofCapacity 1, []⟩ shardsProgram ≠
      Run.reads {} ⟨ofCapacity 2, []⟩ shardsProgram := by
  decide

/-- A program that goes back to a stand-in sees it cleared, unless its recording was pushed out. -/
example :
    let program : List Step :=
      [.start "Order".toList [], .call 0 "Order".toList "show".toList [], .start "Item".toList [],
        .start "Order".toList [], .read 1]
    Run.reads {} ⟨ofCapacity 1, []⟩ program ≠ Run.reads {} ⟨ofCapacity 2, []⟩ program := by
  decide

end Recordings

end Signpost
