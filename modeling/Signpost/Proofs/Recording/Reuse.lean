import Signpost.Proofs.Recording.Sharing

/-!
# Recordings that are handed out again

A recording is found again under the type of its target and its class-level arguments as long as it
is kept. Every request for another one may move it one place back, and it is pushed out behind the
last place. So it is kept at least until as many requests were made as there are places.

## Main definitions

* `Recordings.KeepsOnce`: there is one recording under each key.
* `Recordings.KeepsWithin`: how many recordings are kept in front of one.
* `Recordings.Act.isStart`: whether an act asks for a stand-in.

## Main results

* `Recordings.KeepsWithin.start`: a request moves a recording back by one place at most.
* `Recordings.Log.keepsWithin_after`: a recording is kept until as many requests were made as there
  are places.
* `Recordings.Log.IsConsistent.number?_start_iff`: what is asked for again has the same recording if
  and only if this is still kept.
* `Recordings.number?_start_after`: the same from new recordings on, after any acts.
-/

namespace Signpost.Recordings

variable {handlers : HandlerTable} {recordings : Recordings} {target : Handler}
  {parameters : List Argument} {key other : RecordingKey} {number count : Nat}

/-- No two recordings are kept under one key. -/
def KeepsOnce (recordings : Recordings) : Prop :=
  (recordings.kept.map (·.1)).Nodup

/-- The recording is kept under the key, and at most `count` recordings are in front of it. -/
def KeepsWithin (recordings : Recordings) (key : RecordingKey) (number count : Nat) : Prop :=
  ∃ front back, recordings.kept = front ++ (key, number) :: back ∧ front.length ≤ count

/-- Whether the act asks for a stand-in. -/
def Act.isStart : Act → Bool
  | start _ _ => true
  | call _ _ _ _ | copy _ => false

/-! ### One request -/

theorem kept_start (recordings : Recordings) (target : Handler) (parameters : List Argument) :
    (recordings.start target parameters).2.kept =
      recordings.keep (.of target parameters) (recordings.start target parameters).1 := by
  rw [start]
  split <;> rfl

theorem capacity_start (recordings : Recordings) (target : Handler) (parameters : List Argument) :
    (recordings.start target parameters).2.capacity = recordings.capacity := by
  rw [start]
  split <;> rfl

theorem KeepsWithin.mem_kept (h : recordings.KeepsWithin key number count) :
    (key, number) ∈ recordings.kept := by
  obtain ⟨front, back, hkept, -⟩ := h
  exact hkept ▸ List.mem_append_right front List.mem_cons_self

/-- What is kept under a key is found under it. -/
theorem KeepsOnce.lookup_eq_some (honce : recordings.KeepsOnce)
    (h : (key, number) ∈ recordings.kept) : recordings.kept.lookup key = some number := by
  obtain ⟨front, back, hkept⟩ := List.append_of_mem h
  refine List.lookup_eq_some_iff.mpr ⟨front, back, hkept, fun entry hentry => bne_iff_ne.mpr ?_⟩
  rw [KeepsOnce, hkept, List.map_append, List.nodup_append] at honce
  exact (honce.2.2 entry.1 (List.mem_map_of_mem hentry) key List.mem_cons_self).symm

/-- A recording that is kept is handed out again. -/
theorem KeepsOnce.fst_start (honce : recordings.KeepsOnce)
    (h : (.of target parameters, number) ∈ recordings.kept) :
    (recordings.start target parameters).1 = number := by
  rw [Recordings.start, honce.lookup_eq_some h]

theorem KeepsOnce.start (honce : recordings.KeepsOnce) (target : Handler)
    (parameters : List Argument) : (recordings.start target parameters).2.KeepsOnce := by
  rw [KeepsOnce, kept_start, keep]
  have hothers : ((recordings.kept.filter (·.1 ≠ .of target parameters)).map (·.1)).Nodup :=
    honce.sublist (List.filter_sublist.map _)
  refine List.Nodup.sublist ((List.take_sublist _ _).map _) (List.nodup_cons.mpr ⟨?_, hothers⟩)
  rintro hmem
  obtain ⟨entry, hentry, hsame⟩ := List.mem_map.mp hmem
  exact of_decide_eq_true (List.mem_filter.mp hentry).2 hsame

/-- What was just asked for is kept in front of all others. -/
theorem keepsWithin_start (hcapacity : 0 < recordings.capacity) (target : Handler)
    (parameters : List Argument) :
    (recordings.start target parameters).2.KeepsWithin (.of target parameters)
      (recordings.start target parameters).1 0 := by
  obtain ⟨rest, hrest⟩ := Nat.exists_eq_succ_of_ne_zero (Nat.ne_of_gt hcapacity)
  refine ⟨[], (recordings.kept.filter (·.1 ≠ .of target parameters)).take rest, ?_,
    Nat.le_refl 0⟩
  rw [kept_start, keep, hrest, List.take_succ_cons]
  rfl

/-- A recording under another key is moved back by one place at most. -/
theorem exists_keep_eq {front back : List (RecordingKey × Nat)}
    (hkept : recordings.kept = front ++ (key, number) :: back) (hne : key ≠ other)
    (hlt : front.length + 1 < recordings.capacity) (place : Nat) :
    ∃ ahead behind, recordings.keep other place = ahead ++ (key, number) :: behind ∧
      ahead.length ≤ front.length + 1 := by
  have hahead : ((other, place) :: front.filter (·.1 ≠ other)).length ≤ front.length + 1 :=
    Nat.succ_le_succ (List.length_filter_le _ front)
  have hstays : ((key, number) :: back).filter (·.1 ≠ other) =
      (key, number) :: back.filter (·.1 ≠ other) :=
    List.filter_cons_of_pos (decide_eq_true hne)
  obtain ⟨rest, hrest⟩ := Nat.exists_eq_add_of_lt (Nat.lt_of_le_of_lt hahead hlt)
  refine ⟨_, (back.filter (·.1 ≠ other)).take rest, ?_, hahead⟩
  rw [keep, hkept, List.filter_append, hstays, ← List.cons_append, hrest, Nat.add_assoc,
    List.take_length_add_append, List.take_succ_cons]

/-- A request moves a recording back by one place at most. -/
theorem KeepsWithin.start (h : recordings.KeepsWithin key number count)
    (honce : recordings.KeepsOnce) (hlt : count + 1 < recordings.capacity) (target : Handler)
    (parameters : List Argument) :
    (recordings.start target parameters).2.KeepsWithin key number (count + 1) := by
  by_cases hsame : key = .of target parameters
  · subst hsame
    obtain ⟨front, back, hkept, hlength⟩ :=
      keepsWithin_start (Nat.zero_lt_of_lt hlt) target parameters
    rw [honce.fst_start h.mem_kept] at hkept
    exact ⟨front, back, hkept, Nat.le_trans hlength (Nat.zero_le _)⟩
  · obtain ⟨front, back, hkept, hlength⟩ := h
    have hroom := Nat.lt_of_le_of_lt (Nat.succ_le_succ hlength) hlt
    obtain ⟨ahead, behind, hkeep, hahead⟩ := exists_keep_eq hkept hsame hroom _
    refine ⟨ahead, behind, ?_, Nat.le_trans hahead (Nat.succ_le_succ hlength)⟩
    rw [kept_start, hkeep]

/-! ### Many acts -/

namespace Log

variable {log : Log}

theorem capacity_step (handlers : HandlerTable) (log : Log) (act : Act) :
    (log.step handlers act).recordings.capacity = log.recordings.capacity := by
  cases act with
  | start type parameters => exact capacity_start _ _ _
  | call standIn | copy standIn =>
    rw [step]
    split <;> rfl

theorem keepsOnce_step (h : log.recordings.KeepsOnce) (act : Act) :
    (log.step handlers act).recordings.KeepsOnce := by
  cases act with
  | start type parameters => exact h.start _ _
  | call standIn | copy standIn =>
    rw [step]
    split <;> exact h

/-- The acts so far are not forgotten. -/
theorem acts_prefix_step (act : Act) : log.acts <+: (log.step handlers act).acts := by
  cases act with
  | start type parameters => exact List.prefix_append _ _
  | call standIn | copy standIn =>
    rw [step]
    split
    · exact List.prefix_append _ _
    · exact List.prefix_refl _

theorem capacity_after (handlers : HandlerTable) (log : Log) (acts : List Act) :
    (log.after handlers acts).recordings.capacity = log.recordings.capacity :=
  List.foldlRecOn acts _
    (motive := fun next : Log => next.recordings.capacity = log.recordings.capacity) rfl
    fun next hlog act _ => (capacity_step handlers next act).trans hlog

theorem keepsOnce_after (h : log.recordings.KeepsOnce) (acts : List Act) :
    (log.after handlers acts).recordings.KeepsOnce :=
  List.foldlRecOn acts _ (motive := fun next : Log => next.recordings.KeepsOnce) h
    fun _ hlog act _ => keepsOnce_step hlog act

theorem acts_prefix_after (acts : List Act) : log.acts <+: (log.after handlers acts).acts :=
  List.foldlRecOn acts _ (motive := fun next : Log => log.acts <+: next.acts) (List.prefix_refl _)
    fun _ hlog act _ => hlog.trans (acts_prefix_step act)

/-- An act moves a recording back only if it asks for a stand-in, and then by one place at most. -/
theorem keepsWithin_step (h : log.recordings.KeepsWithin key number count)
    (honce : log.recordings.KeepsOnce) (act : Act)
    (hlt : count + [act].countP Act.isStart < log.recordings.capacity) :
    (log.step handlers act).recordings.KeepsWithin key number
      (count + [act].countP Act.isStart) := by
  cases act with
  | start type parameters => exact h.start honce hlt _ _
  | call standIn | copy standIn =>
    rw [step]
    split <;> exact h

/-- A recording is kept until as many requests were made as there are places. -/
theorem keepsWithin_after (h : log.recordings.KeepsWithin key number count)
    (honce : log.recordings.KeepsOnce) {acts : List Act}
    (hlt : count + acts.countP Act.isStart < log.recordings.capacity) :
    (log.after handlers acts).recordings.KeepsWithin key number
      (count + acts.countP Act.isStart) := by
  induction acts generalizing log count with
  | nil => exact h
  | cons act rest ih =>
    have hcount : (act :: rest).countP Act.isStart =
        [act].countP Act.isStart + rest.countP Act.isStart := by
      rw [← List.countP_append, List.singleton_append]
    rw [hcount, ← Nat.add_assoc] at hlt ⊢
    have hstep : (log.step handlers act).recordings.KeepsWithin key number _ :=
      keepsWithin_step h honce act (Nat.lt_of_le_of_lt (Nat.le_add_right _ _) hlt)
    refine ih hstep (keepsOnce_step honce act) ?_
    rwa [capacity_step]

/-- What is asked for again has the same recording if and only if this is still kept. -/
theorem IsConsistent.number?_start_iff (h : log.IsConsistent handlers)
    (honce : log.recordings.KeepsOnce) {type : Text}
    (hasked : (number, .start type parameters) ∈ log.acts) :
    (log.step handlers (.start type parameters)).number? log.acts.length = some number ↔
      ∃ key, (key, number) ∈ log.recordings.kept := by
  have hlast : (log.step handlers (.start type parameters)).number? log.acts.length =
      some (log.recordings.start (handlers.describe type) parameters).1 := by
    rw [number?, Log.step, List.getElem?_concat_length, Option.map_some]
  rw [hlast, Option.some_inj]
  obtain ⟨recording, hrecording, hreflects⟩ := h.reflects number _ hasked
  have hstarts := hreflects.handedOut _ (mem_actsOn hasked) type parameters rfl
  constructor
  · intro hsame
    rcases fst_start log.recordings (handlers.describe type) parameters with hkept | hnew
    · exact ⟨_, hsame ▸ hkept⟩
    · -- A new recording is no recording that was handed out.
      rw [← hsame, hnew, List.getElem?_eq_none (Nat.le_refl _)] at hrecording
      exact absurd hrecording (by simp)
  · rintro ⟨key, hkept⟩
    obtain ⟨-, kept, hfound, -, hkey⟩ := h.kept key number hkept
    obtain rfl := Option.some_inj.mp (hrecording.symm.trans hfound)
    have hsame : key = .of (handlers.describe type) parameters := hkey.symm.trans hstarts.2
    exact honce.fst_start (hsame ▸ hkept)

end Log

/-- **Asking again.** Take any acts, a request, and any acts after it. Asking for the same again
gives a stand-in with the same recording if and only if this is still kept, and it is kept until as
many requests were made as there are places. -/
theorem number?_start_after (handlers : HandlerTable) (capacity : Nat) (earlier later : List Act)
    (type : Text) (parameters : List Argument) :
    let first := Log.after handlers ⟨ofCapacity capacity, []⟩ earlier
    let last := (first.step handlers (.start type parameters)).after handlers later
    ∃ number, last.number? first.acts.length = some number ∧
      ((last.step handlers (.start type parameters)).number? last.acts.length = some number ↔
        ∃ key, (key, number) ∈ last.recordings.kept) ∧
      (later.countP Act.isStart < max capacity 1 →
        ∃ key, (key, number) ∈ last.recordings.kept) := by
  intro first last
  let asked := first.step handlers (.start type parameters)
  let number := (first.recordings.start (handlers.describe type) parameters).1
  have hconsistent : last.IsConsistent handlers :=
    (((Log.isConsistent_new handlers capacity).after earlier).step _).after later
  have hnew : (Log.mk (ofCapacity capacity) []).recordings.KeepsOnce := List.nodup_nil
  have honce : asked.recordings.KeepsOnce :=
    Log.keepsOnce_step (Log.keepsOnce_after hnew earlier) _
  have hcapacity : first.recordings.capacity = max capacity 1 :=
    Log.capacity_after handlers ⟨ofCapacity capacity, []⟩ earlier
  obtain ⟨more, hmore⟩ : asked.acts <+: last.acts := Log.acts_prefix_after later
  have hasked : last.acts[first.acts.length]? = some (number, .start type parameters) := by
    rw [← hmore, List.getElem?_append_left (by simp [asked, Log.step])]
    exact List.getElem?_concat_length
  refine ⟨number, by rw [Log.number?, hasked, Option.map_some], ?_, fun hlt => ?_⟩
  · exact hconsistent.number?_start_iff (Log.keepsOnce_after honce later)
      (List.mem_of_getElem? hasked)
  · have hplaces : 0 + later.countP Act.isStart < asked.recordings.capacity := by
      rwa [Nat.zero_add, Log.capacity_step, hcapacity]
    have hfront : asked.recordings.KeepsWithin _ number 0 :=
      keepsWithin_start (hcapacity ▸ Nat.le_max_right capacity 1) _ _
    exact ⟨_, (Log.keepsWithin_after hfront honce hplaces).mem_kept⟩

end Signpost.Recordings
