import Signpost.Proofs.Recording

/-!
# Stand-ins that share a recording

A stand-in is got by asking for one, by a call on another one or by copying another one. In the last
two ways it gets the recording of the other one, so that a recording is shared by a whole chain of
stand-ins, and by several chains if it was kept and handed out again. It lives on for its stand-ins
after it was pushed out.

All that a stand-in shows can be told from the acts on its recording. The first one made it and
settled its target and its class-level arguments, and the last one that is no copy is the call it
shows, unless that one handed the recording out again. Acts on other recordings have no part in it.

## Main definitions

* `Recordings.Act`: what is done with stand-ins.
* `Recordings.Log`, `Recordings.Log.step`: the recordings, and the acts so far.
* `Recordings.Log.actsOn`: the acts on a recording.
* `Recordings.Log.StemsFrom`: chains of stand-ins.
* `Recordings.Reflects`: what acts make of the recording they are on.

## Main results

* `Recordings.Log.IsConsistent.step_cases`: what an act can do.
* `Recordings.Log.IsConsistent.step`: an act leaves every recording as the acts on it have made it.
* `Recordings.standIn_after`: what a stand-in shows after any acts.
-/

namespace Signpost.Recordings

/-! ### Acts -/

/-- What is done with stand-ins. Every act gives a stand-in, which goes by the number of acts before
it. -/
inductive Act where
  /-- Asking for a stand-in for a handler, which is named by its type. -/
  | start (type : Text) (parameters : List Argument)
  /-- A call on a stand-in. -/
  | call (standIn : Nat) (declaring method : Text) (arguments : List Argument)
  /-- A copy of a stand-in. -/
  | copy (standIn : Nat)
  deriving DecidableEq

namespace Act

/-- The stand-in that an act gets its own from. -/
def origin? : Act → Option Nat
  | start _ _ => none
  | call standIn _ _ _ | copy standIn => some standIn

/-- Whether the act is a copy. -/
def isCopy : Act → Bool
  | copy _ => true
  | start _ _ | call _ _ _ _ => false

/-- The call that the act leaves on a recording for `target`. -/
def call? (handlers : HandlerTable) (target : Handler) : Act → Option Call
  | call _ declaring method arguments =>
    some { target, declaring := handlers.describe declaring, method, arguments }
  | start _ _ | copy _ => none

/-- The recording after the act. -/
def apply (handlers : HandlerTable) (act : Act) (recording : Recording) : Recording :=
  if act.isCopy then recording
  else { recording with last := act.call? handlers recording.target }

/-- The act may be on the recording: what asks for a stand-in has to ask for its target with
class-level arguments that count as equal to its own. -/
def IsFor (handlers : HandlerTable) (act : Act) (recording : Recording) : Prop :=
  ∀ type parameters, act = start type parameters →
    recording.StartsLike { target := handlers.describe type, parameters }

end Act

/-- The recordings, and the acts so far with the number of the recording that each was on, the
oldest first. -/
structure Log where
  recordings : Recordings
  acts : List (Nat × Act) := []

namespace Log

/-- The number of the recording behind a stand-in. -/
def number? (log : Log) (standIn : Nat) : Option Nat :=
  log.acts[standIn]?.map (·.1)

/-- What a stand-in shows. -/
def get? (log : Log) (standIn : Nat) : Option Recording :=
  (log.number? standIn).bind log.recordings.get?

/-- The log after an act. There is no act on a stand-in that was not got before. -/
def step (handlers : HandlerTable) (log : Log) (act : Act) : Log :=
  match act with
  | .start type parameters =>
    let (number, recordings) := log.recordings.start (handlers.describe type) parameters
    ⟨recordings, log.acts ++ [(number, act)]⟩
  | .call standIn declaring method arguments =>
    match log.number? standIn with
    | some number =>
      ⟨log.recordings.record number (handlers.describe declaring) method arguments,
        log.acts ++ [(number, act)]⟩
    | none => log
  | .copy standIn =>
    match log.number? standIn with
    | some number => ⟨log.recordings, log.acts ++ [(number, act)]⟩
    | none => log

/-- The log after acts. -/
def after (handlers : HandlerTable) (log : Log) (acts : List Act) : Log :=
  acts.foldl (step handlers) log

/-- The acts on a recording. -/
def actsOn (log : Log) (number : Nat) : List Act :=
  (log.acts.filter (·.1 = number)).map (·.2)

/-- The stand-in was got from the one numbered `root` by a chain of calls and copies. -/
inductive StemsFrom (log : Log) (root : Nat) : Nat → Prop
  | root : StemsFrom log root root
  | next {standIn place number : Nat} {act : Act} (h : StemsFrom log root standIn)
    (hact : log.acts[place]? = some (number, act)) (horigin : act.origin? = some standIn) :
    StemsFrom log root place

end Log

/-- The recording is what the acts on it have made of it. -/
structure Reflects (handlers : HandlerTable) (acts : List Act) (recording : Recording) : Prop where
  /-- The first act asked for a stand-in for its target with its class-level arguments. -/
  made : ∃ type, acts.head? = some (.start type recording.parameters) ∧
    recording.target = handlers.describe type
  /-- It was handed out for no other target, and for no other arguments but equal ones. -/
  handedOut : ∀ act ∈ acts, act.IsFor handlers recording
  /-- It shows the last act that is no copy if that is a call, and no call otherwise. -/
  last : recording.last =
    (acts.filter (!·.isCopy)).getLast?.bind (Act.call? handlers recording.target)

variable {handlers : HandlerTable}

/-! ### One recording -/

theorem Act.startsAs_apply (handlers : HandlerTable) (act : Act) (recording : Recording) :
    (act.apply handlers recording).StartsAs recording := by
  rw [apply]
  split
  · exact ⟨rfl, rfl⟩
  · exact ⟨rfl, rfl⟩

/-- A recording that was just made reflects the act that made it. -/
theorem reflects_start (handlers : HandlerTable) (type : Text) (parameters : List Argument) :
    Reflects handlers [.start type parameters]
      { target := handlers.describe type, parameters } where
  made := ⟨type, rfl, rfl⟩
  handedOut := by
    rintro act hact other others rfl
    obtain ⟨rfl, rfl⟩ := Act.start.inj (List.mem_singleton.mp hact)
    exact ⟨rfl, rfl⟩
  last := rfl

/-- A further act on a recording leaves it reflecting all of them. -/
theorem Reflects.concat {acts : List Act} {recording : Recording}
    (h : Reflects handlers acts recording) {act : Act} (hfor : act.IsFor handlers recording) :
    Reflects handlers (acts ++ [act]) (act.apply handlers recording) := by
  obtain ⟨htarget, hparameters⟩ := act.startsAs_apply handlers recording
  refine ⟨?_, fun other hother type parameters hstart => ?_, ?_⟩
  · obtain ⟨type, hhead, hmade⟩ := h.made
    refine ⟨type, ?_, htarget.trans hmade⟩
    rw [hparameters, List.head?_append, hhead, Option.some_or]
  · refine (act.startsAs_apply handlers recording).startsLike.trans ?_
    rcases List.mem_append.mp hother with hold | hnew
    · exact h.handedOut other hold type parameters hstart
    · exact hfor type parameters (List.mem_singleton.mp hnew ▸ hstart)
  · rw [htarget, List.filter_append, Act.apply]
    cases hcopy : act.isCopy with
    | true => simp [hcopy, h.last]
    | false => simp [hcopy]

theorem Act.target_of_call? {act : Act} {target : Handler} {call : Call}
    (h : act.call? handlers target = some call) : call.target = target := by
  cases act with
  | call => exact Option.some_inj.mp h ▸ rfl
  | start | copy => exact absurd h (by simp [call?])

/-- Every call that a recording shows is one for its target. -/
theorem Reflects.target_of_last {acts : List Act} {recording : Recording}
    (h : Reflects handlers acts recording) {call : Call} (hcall : recording.last = some call) :
    call.target = recording.target := by
  obtain ⟨act, -, hact⟩ := Option.bind_eq_some_iff.mp (h.last.symm.trans hcall)
  exact Act.target_of_call? hact

/-! ### What an act can do -/

namespace Log

variable {log : Log}

/-- The act was on a recording: on one that acts before it were on and that it may be on, or on a
new one that it made. It touched no other one, and nothing else is kept that was not kept before. -/
structure Takes (handlers : HandlerTable) (log : Log) (act : Act) (number : Nat) (next : Log) :
    Prop where
  acts : next.acts = log.acts ++ [(number, act)]
  origin : ∀ standIn, act.origin? = some standIn → log.number? standIn = some number
  here :
    (∃ recording, log.recordings.all[number]? = some recording ∧
        (∃ earlier, (number, earlier) ∈ log.acts) ∧ act.IsFor handlers recording ∧
        next.recordings.all[number]? = some (act.apply handlers recording)) ∨
      log.recordings.all[number]? = none ∧ ∃ type parameters, act = .start type parameters ∧
        next.recordings.all[number]? = some { target := handlers.describe type, parameters }
  others : ∀ other ≠ number, ∀ recording, log.recordings.all[other]? = some recording →
    next.recordings.all[other]? = some recording
  kept : ∀ entry ∈ next.recordings.kept, entry ∈ log.recordings.kept ∨
    ∃ type parameters, act = .start type parameters ∧
      entry = (.of (handlers.describe type) parameters, number)

/-- Every recording is what the acts on it have made of it, every stand-in that was got from
another one has its recording, and what is kept was handed out for its key. -/
structure IsConsistent (handlers : HandlerTable) (log : Log) : Prop where
  reflects : ∀ number act, (number, act) ∈ log.acts →
    ∃ recording, log.recordings.all[number]? = some recording ∧
      Reflects handlers (log.actsOn number) recording
  origin : ∀ place number act, log.acts[place]? = some (number, act) →
    ∀ standIn, act.origin? = some standIn → standIn < place ∧ log.number? standIn = some number
  kept : ∀ key number, (key, number) ∈ log.recordings.kept →
    (∃ act, (number, act) ∈ log.acts) ∧
      ∃ recording, log.recordings.all[number]? = some recording ∧ recording.IsUnder handlers key

theorem exists_mem_of_number? {standIn number : Nat} (h : log.number? standIn = some number) :
    ∃ act, (number, act) ∈ log.acts := by
  obtain ⟨⟨_, act⟩, hact, rfl⟩ := Option.map_eq_some_iff.mp h
  exact ⟨act, List.mem_of_getElem? hact⟩

theorem mem_actsOn {number : Nat} {act : Act} (h : (number, act) ∈ log.acts) :
    act ∈ log.actsOn number :=
  List.mem_map.mpr ⟨(number, act), List.mem_filter.mpr ⟨h, decide_eq_true rfl⟩, rfl⟩

theorem get?_of_number? {standIn number : Nat} {recording : Recording}
    (hnumber : log.number? standIn = some number)
    (hrecording : log.recordings.all[number]? = some recording) :
    log.get? standIn = some recording := by
  rw [get?, hnumber]
  exact hrecording

namespace Takes

variable {act : Act} {number : Nat} {next : Log}

theorem mem_acts (h : Takes handlers log act number next) {entry : Nat × Act}
    (hentry : entry ∈ log.acts) : entry ∈ next.acts := by
  rw [h.acts]
  exact List.mem_append_left _ hentry

theorem number?_eq (h : Takes handlers log act number next) {standIn found : Nat}
    (hfound : log.number? standIn = some found) : next.number? standIn = some found := by
  obtain ⟨entry, hentry, hfound⟩ := Option.map_eq_some_iff.mp hfound
  have hlt := (List.getElem?_eq_some_iff.mp hentry).1
  rw [number?, h.acts, List.getElem?_append_left hlt, hentry, Option.map_some, hfound]

theorem actsOn_eq (h : Takes handlers log act number next) (other : Nat) :
    next.actsOn other = log.actsOn other ++ if number = other then [act] else [] := by
  rw [actsOn, h.acts, List.filter_append, List.map_append, actsOn]
  by_cases hsame : number = other <;> simp [hsame]

/-- The recording that an act is on keeps its target and its class-level arguments, as do all
others. -/
theorem exists_startsAs (h : Takes handlers log act number next) {other : Nat}
    {recording : Recording} (hrecording : log.recordings.all[other]? = some recording) :
    ∃ changed, next.recordings.all[other]? = some changed ∧ changed.StartsAs recording := by
  by_cases hsame : other = number
  · subst hsame
    rcases h.here with ⟨before, hbefore, -, -, hshown⟩ | ⟨hnone, -⟩
    · obtain rfl := Option.some_inj.mp (hrecording.symm.trans hbefore)
      exact ⟨_, hshown, act.startsAs_apply handlers recording⟩
    · exact absurd (hrecording.symm.trans hnone) (by simp)
  · exact ⟨recording, h.others other hsame recording hrecording, rfl, rfl⟩

end Takes

theorem isConsistent_new (handlers : HandlerTable) (capacity : Nat) :
    IsConsistent handlers ⟨ofCapacity capacity, []⟩ where
  reflects _ _ h := absurd h List.not_mem_nil
  origin _ _ _ h := absurd h (by simp)
  kept _ _ h := absurd h List.not_mem_nil

namespace IsConsistent

variable (h : IsConsistent handlers log)

include h

/-- A stand-in that is asked for has a recording that was handed out for the same before, or a new
one. -/
theorem takes_start (type : Text) (parameters : List Argument) :
    ∃ number, Takes handlers log (.start type parameters) number
      (log.step handlers (.start type parameters)) := by
  have hkept (number : Nat)
      (hnumber : (.of (handlers.describe type) parameters, number) ∈ log.recordings.kept) :
      (∃ act, (number, act) ∈ log.acts) ∧ ∃ shared, log.recordings.all[number]? = some shared ∧
        shared.StartsLike { target := handlers.describe type, parameters } := by
    obtain ⟨hlogged, shared, hshared, hunder⟩ := h.kept _ number hnumber
    exact ⟨hlogged, shared, hshared, Recording.isUnder_of_iff.mp hunder⟩
  have hout := handsOut_start fun number hnumber => (hkept number hnumber).2
  have hplace := fst_start log.recordings (handlers.describe type) parameters
  rw [step]
  generalize log.recordings.start (handlers.describe type) parameters = started at hout hplace ⊢
  obtain ⟨number, recordings⟩ := started
  refine ⟨number, rfl, fun standIn h => absurd h (by simp [Act.origin?]), ?_,
    fun other hother recording => (hout.others other hother).trans,
    fun entry hentry => (hout.kept entry hentry).symm.imp_right fun hnew =>
      ⟨type, parameters, rfl, hnew⟩⟩
  rcases hout.here with ⟨shared, hshared, hstarts, hshown⟩ | ⟨hnone, hshown⟩
  · have hmem := hplace.resolve_right fun hnew => by
      rw [hnew, List.getElem?_eq_none (Nat.le_refl _)] at hshared
      exact absurd hshared (by simp)
    refine .inl ⟨shared, hshared, (hkept number hmem).1, ?_, hshown⟩
    rintro _ _ ⟨rfl, rfl⟩
    exact hstarts
  · exact .inr ⟨hnone, type, parameters, rfl, hshown⟩

/-- An act on a stand-in is on its recording. -/
theorem takes_of_number? {act : Act} {standIn number : Nat} {next : Log}
    (horigin : act.origin? = some standIn) (hnumber : log.number? standIn = some number)
    (hacts : next.acts = log.acts ++ [(number, act)])
    (hkept : next.recordings.kept = log.recordings.kept)
    (hall : ∀ place, next.recordings.all[place]? = (log.recordings.all[place]?).map fun recording =>
      if number = place then act.apply handlers recording else recording) :
    Takes handlers log act number next := by
  obtain ⟨earlier, hearlier⟩ := exists_mem_of_number? hnumber
  obtain ⟨recording, hrecording, -⟩ := h.reflects number earlier hearlier
  refine ⟨hacts, fun other hother => ?_, .inl ⟨recording, hrecording, ⟨earlier, hearlier⟩, ?_, ?_⟩,
    fun other hother recording hrecording => ?_, fun entry hentry => .inl (hkept ▸ hentry)⟩
  · rwa [← Option.some_inj.mp (horigin.symm.trans hother)]
  · rintro type parameters rfl
    exact absurd horigin (by simp [Act.origin?])
  · rw [hall, hrecording, Option.map_some, if_pos rfl]
  · rw [hall, hrecording, Option.map_some, if_neg hother.symm]

/-- What an act can do. -/
theorem step_cases (act : Act) :
    log.step handlers act = log ∨
      ∃ number, Takes handlers log act number (log.step handlers act) := by
  cases act with
  | start type parameters => exact .inr (h.takes_start type parameters)
  | call standIn declaring method arguments =>
    cases hnumber : log.number? standIn with
    | none => exact .inl (by simp only [step, hnumber])
    | some number =>
      refine .inr ⟨number, h.takes_of_number? rfl hnumber ?_ ?_ fun place => ?_⟩
      · simp only [step, hnumber]
      · simp only [step, hnumber, record]
      · simp only [step, hnumber, record, List.getElem?_modify]
        rfl
  | copy standIn =>
    cases hnumber : log.number? standIn with
    | none => exact .inl (by simp only [step, hnumber])
    | some number =>
      refine .inr ⟨number, h.takes_of_number? rfl hnumber ?_ ?_ fun place => ?_⟩
      · simp only [step, hnumber]
      · simp only [step, hnumber]
      · simp [step, hnumber, Act.apply, Act.isCopy]

/-- No act was on a recording that there is not. -/
theorem actsOn_eq_nil {number : Nat} (hnone : log.recordings.all[number]? = none) :
    log.actsOn number = [] := by
  rw [actsOn, List.map_eq_nil_iff, List.filter_eq_nil_iff]
  rintro ⟨other, act⟩ hact hsame
  obtain ⟨recording, hrecording, -⟩ := h.reflects other act hact
  obtain rfl : other = number := of_decide_eq_true hsame
  exact absurd (hrecording.symm.trans hnone) (by simp)

/-- The recording that an act is on reflects it as well. -/
theorem exists_reflects {act : Act} {number : Nat} {next : Log}
    (htakes : Takes handlers log act number next) :
    ∃ recording, next.recordings.all[number]? = some recording ∧
      Reflects handlers (log.actsOn number ++ [act]) recording := by
  rcases htakes.here with ⟨recording, hrecording, ⟨first, hfirst⟩, hfor, hshown⟩ |
    ⟨hnone, type, parameters, rfl, hshown⟩
  · obtain ⟨before, hbefore, hreflects⟩ := h.reflects number first hfirst
    obtain rfl := Option.some_inj.mp (hrecording.symm.trans hbefore)
    exact ⟨_, hshown, hreflects.concat hfor⟩
  · rw [h.actsOn_eq_nil hnone]
    exact ⟨_, hshown, reflects_start handlers type parameters⟩

section

variable {act : Act} {number : Nat} {next : Log} (htakes : Takes handlers log act number next)

include htakes

theorem reflects_of_takes {other : Nat} {earlier : Act} (hearlier : (other, earlier) ∈ next.acts) :
    ∃ recording, next.recordings.all[other]? = some recording ∧
      Reflects handlers (next.actsOn other) recording := by
  rw [htakes.actsOn_eq]
  by_cases hsame : number = other
  · rw [if_pos hsame]
    exact hsame ▸ h.exists_reflects htakes
  · rw [htakes.acts, List.mem_append, List.mem_singleton] at hearlier
    have hold := hearlier.resolve_right fun heq => hsame (Prod.mk.inj heq).1.symm
    obtain ⟨recording, hrecording, hreflects⟩ := h.reflects other earlier hold
    rw [if_neg hsame, List.append_nil]
    exact ⟨recording, htakes.others other (Ne.symm hsame) recording hrecording, hreflects⟩

theorem origin_of_takes {place other standIn : Nat} {earlier : Act}
    (hearlier : next.acts[place]? = some (other, earlier))
    (horigin : earlier.origin? = some standIn) :
    standIn < place ∧ next.number? standIn = some other := by
  rw [htakes.acts] at hearlier
  rcases getElem?_concat_cases hearlier with ⟨-, hold⟩ | ⟨rfl, hnew⟩
  · obtain ⟨hlt, hfound⟩ := h.origin place other earlier hold standIn horigin
    exact ⟨hlt, htakes.number?_eq hfound⟩
  · obtain ⟨rfl, rfl⟩ := Prod.mk.inj hnew
    have hfound := htakes.origin standIn horigin
    obtain ⟨entry, hentry, -⟩ := Option.map_eq_some_iff.mp hfound
    exact ⟨(List.getElem?_eq_some_iff.mp hentry).1, htakes.number?_eq hfound⟩

/-- What is kept was kept before, under the same key since, or has just been asked for. -/
theorem kept_of_takes {key : RecordingKey} {other : Nat}
    (hkept : (key, other) ∈ next.recordings.kept) :
    (∃ earlier, (other, earlier) ∈ next.acts) ∧
      ∃ recording, next.recordings.all[other]? = some recording ∧
        recording.IsUnder handlers key := by
  rcases htakes.kept _ hkept with hold | ⟨type, parameters, rfl, hnew⟩
  · obtain ⟨⟨earlier, hearlier⟩, recording, hrecording, hunder⟩ := h.kept key other hold
    obtain ⟨changed, hchanged, hsame⟩ := htakes.exists_startsAs hrecording
    exact ⟨⟨earlier, htakes.mem_acts hearlier⟩, changed, hchanged,
      hsame.startsLike.isUnder hunder⟩
  · obtain ⟨rfl, rfl⟩ := Prod.mk.inj hnew
    obtain ⟨recording, hrecording, hreflects⟩ := h.exists_reflects htakes
    refine ⟨⟨.start type parameters, ?_⟩, recording, hrecording, ?_⟩
    · rw [htakes.acts]
      exact List.mem_append_right _ List.mem_cons_self
    · exact Recording.isUnder_of_iff.mpr (hreflects.handedOut (.start type parameters)
        (List.mem_append_right _ List.mem_cons_self) type parameters rfl)

end

/-- An act leaves every recording as the acts on it have made it. -/
theorem step (act : Act) : IsConsistent handlers (log.step handlers act) := by
  rcases h.step_cases act with hsame | ⟨number, htakes⟩
  · rwa [hsame]
  · exact {
      reflects := fun _ _ => h.reflects_of_takes htakes
      origin := fun _ _ _ hearlier _ => h.origin_of_takes htakes hearlier
      kept := fun _ _ => h.kept_of_takes htakes }

/-- Acts leave every recording as the acts on it have made it. -/
theorem after (acts : List Act) : IsConsistent handlers (log.after handlers acts) :=
  List.foldlRecOn acts _ h fun _ hlog act _ => hlog.step act

/-- A stand-in keeps its recording, and this its target and its class-level arguments, whatever is
done. -/
theorem exists_startsAs_after {standIn number : Nat} {recording : Recording}
    (hnumber : log.number? standIn = some number)
    (hrecording : log.recordings.all[number]? = some recording) (acts : List Act) :
    ∃ changed, (log.after handlers acts).get? standIn = some changed ∧
      changed.StartsAs recording := by
  have hrun : IsConsistent handlers (log.after handlers acts) ∧
      (log.after handlers acts).number? standIn = some number ∧
      ∃ changed, (log.after handlers acts).recordings.all[number]? = some changed ∧
        changed.StartsAs recording := by
    refine List.foldlRecOn acts (Log.step handlers)
      (motive := fun next => IsConsistent handlers next ∧ next.number? standIn = some number ∧
        ∃ changed, next.recordings.all[number]? = some changed ∧ changed.StartsAs recording)
      ⟨h, hnumber, recording, hrecording, rfl, rfl⟩ ?_
    rintro next ⟨hnext, hfound, before, hbefore, hstarts⟩ act -
    refine ⟨hnext.step act, ?_⟩
    rcases hnext.step_cases act with hsame | ⟨other, htakes⟩
    · rw [hsame]
      exact ⟨hfound, before, hbefore, hstarts⟩
    · obtain ⟨changed, hchanged, hkept⟩ := htakes.exists_startsAs hbefore
      exact ⟨htakes.number?_eq hfound, changed, hchanged, hkept.1.trans hstarts.1,
        hkept.2.trans hstarts.2⟩
  obtain ⟨-, hlast, changed, hchanged, hstarts⟩ := hrun
  exact ⟨changed, get?_of_number? hlast hchanged, hstarts⟩

/-- A stand-in shows the same after an act on another recording. -/
theorem get?_step_of_ne {standIn number other : Nat} {recording : Recording} {act : Act}
    (hnumber : log.number? standIn = some number)
    (hrecording : log.recordings.all[number]? = some recording)
    (hacts : (log.step handlers act).acts = log.acts ++ [(other, act)]) (hne : other ≠ number) :
    (log.step handlers act).get? standIn = some recording := by
  rcases h.step_cases act with hsame | ⟨place, htakes⟩
  · rw [hsame]
    exact get?_of_number? hnumber hrecording
  · obtain rfl : place = other := by
      have hentry := List.append_cancel_left (htakes.acts.symm.trans hacts)
      exact (Prod.mk.inj (List.singleton_inj.mp hentry)).1
    exact get?_of_number? (htakes.number?_eq hnumber)
      (htakes.others number hne.symm recording hrecording)

/-- Every stand-in goes back to one that was asked for and has the same recording. -/
theorem exists_root {standIn number : Nat} (hnumber : log.number? standIn = some number) :
    ∃ root type parameters, log.StemsFrom root standIn ∧
      log.acts[root]? = some (number, .start type parameters) := by
  induction standIn using Nat.strongRecOn with
  | ind standIn ih =>
    obtain ⟨⟨_, act⟩, hact, rfl⟩ := Option.map_eq_some_iff.mp hnumber
    cases horigin : act.origin? with
    | none =>
      cases act with
      | start type parameters => exact ⟨standIn, type, parameters, .root, hact⟩
      | call | copy => exact absurd horigin (by simp [Act.origin?])
    | some origin =>
      obtain ⟨hlt, hfound⟩ := h.origin standIn _ act hact origin horigin
      obtain ⟨root, type, parameters, hstems, hroot⟩ := ih origin hlt hfound
      exact ⟨root, type, parameters, hstems.next hact horigin, hroot⟩

end IsConsistent

/-! ### How many recordings are kept -/

theorem length_keep_le (recordings : Recordings) (key : RecordingKey) (number : Nat) :
    (recordings.keep key number).length ≤ recordings.capacity :=
  List.length_take_le _ _

theorem size_step_le {capacity : Nat} (act : Act)
    (h : log.recordings.capacity = capacity ∧ log.recordings.size ≤ capacity) :
    (log.step handlers act).recordings.capacity = capacity ∧
      (log.step handlers act).recordings.size ≤ capacity := by
  obtain ⟨rfl, hsize⟩ := h
  cases act with
  | start type parameters =>
    simp only [step, start]
    split
    · exact ⟨rfl, length_keep_le _ _ _⟩
    · exact ⟨rfl, length_keep_le _ _ _⟩
  | call standIn declaring method arguments =>
    simp only [step]
    split
    · exact ⟨rfl, hsize⟩
    · exact ⟨rfl, hsize⟩
  | copy standIn =>
    simp only [step]
    split
    · exact ⟨rfl, hsize⟩
    · exact ⟨rfl, hsize⟩

theorem size_after_le (handlers : HandlerTable) (capacity : Nat) (acts : List Act) :
    (after handlers ⟨ofCapacity capacity, []⟩ acts).recordings.size ≤ max capacity 1 :=
  (List.foldlRecOn acts _
    (motive := fun log : Log =>
      log.recordings.capacity = max capacity 1 ∧ log.recordings.size ≤ max capacity 1)
    ⟨rfl, Nat.zero_le _⟩ fun _ hlog act _ => size_step_le act hlog).2

end Log

/-- A chain of two calls with a copy at its end, and a stand-in for the handler of the second
one. -/
def itemsActs : List Act :=
  [.start "Order".toList [], .call 0 "Order".toList "items".toList [.absent],
    .call 1 "Item".toList "show".toList [], .copy 2, .start "Item".toList [.absent],
    .call 4 "Item".toList "list".toList []]

/-- A stand-in whose recording is handed out again shows no call any more, one whose recording was
pushed out does. -/
example :
    let acts : List Act := [.start "Order".toList [], .call 0 "Order".toList "items".toList [],
      .start "Item".toList [], .start "Order".toList []]
    ((Log.after {} ⟨ofCapacity 2, []⟩ acts).get? 1).bind (·.last) = none ∧
      ((Log.after {} ⟨ofCapacity 1, []⟩ acts).get? 1).bind (·.last) ≠ none := by
  decide

end Signpost.Recordings
