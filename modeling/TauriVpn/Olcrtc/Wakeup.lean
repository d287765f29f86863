import TauriVpn.Lib.Notify
import TauriVpn.Olcrtc.Slot

/-! `wait_for_data` and its notifiers step by step. The waiter looks at its entry
under the lock, clones the waker and waits on it after the lock is released;
`handle_frame` and `mark_closed` change the entry under the lock and notify later,
`close_stream` and `reset_client` notify before they release it. -/

namespace TauriVpn.Olcrtc

open StepSystem

/-- Where the task in `wait_for_data` stands; `away` is a task outside of it. -/
inductive WaiterPc where
  | away
  | looking
  | cloned (waker : NotifyId)
  | parked (waker : NotifyId)
  deriving DecidableEq

inductive WaitEvent where
  | enter
  | look
  | park
  | notify (waker : NotifyId)
  | call (op : Operation)

def WaitEvent.isReset : WaitEvent → Bool
  | .call op => op.isReset
  | _ => false

/-- `pending` holds the wakers that an operation has cloned under the lock and is
still going to notify. -/
structure Waiting where
  mux : Multiplexer
  notifies : NotifyId → Notify
  waiter : WaiterPc
  pending : List NotifyId

/-- The wakers that the operation notifies. -/
def Multiplexer.notifiedBy (m : Multiplexer) : Operation → List NotifyId
  | .closeStream send sid => (m.closeStream send sid).notified
  | .handleFrame frame => (m.handleFrame frame).2
  | _ => []

/-- The operation notifies before it releases the lock. -/
def Operation.notifiesLocked : Operation → Bool
  | .closeStream _ _ => true
  | op => op.isReset

namespace Waiting

/-- `notify_one` on one waker. -/
def notifyOne (s : Waiting) (waker : NotifyId) : Waiting :=
  { s with
    notifies := Function.update s.notifies waker (s.notifies waker).notifyOne
    waiter := if s.waiter = .parked waker ∧ s.notifies waker = .waiting then .looking else s.waiter }

/-- One look of `wait_for_data` at its entry. -/
def look (sid : UInt16) (s : Waiting) : Waiting :=
  match s.mux.waitForData sid with
  | (none, mux) => { s with mux, waiter := .away }
  | (some waker, mux) => { s with mux, waiter := .cloned waker }

/-- `notify.notified().await` on the cloned waker. -/
def park (s : Waiting) (waker : NotifyId) : Waiting :=
  { s with
    notifies := Function.update s.notifies waker (s.notifies waker).notified
    waiter := if s.notifies waker = .permit then .looking else .parked waker }

/-- An operation other than a `wait_for_data` on the stream. -/
def call (s : Waiting) (op : Operation) : Option Waiting :=
  (s.mux.perform op).map fun mux =>
    if op.notifiesLocked then (s.mux.notifiedBy op).foldl notifyOne { s with mux }
    else { s with mux, pending := s.pending ++ s.mux.notifiedBy op }

def waitsOn (sid : UInt16) : Operation → Bool
  | .waitForData sid' => sid' == sid
  | _ => false

def step (sid : UInt16) (s : Waiting) : WaitEvent → Option Waiting
  | .enter => if s.waiter = .away then some { s with waiter := .looking } else none
  | .look => if s.waiter = .looking then some (s.look sid) else none
  | .park =>
    match s.waiter with
    | .cloned waker => some (s.park waker)
    | _ => none
  | .notify waker =>
    if waker ∈ s.pending then some { s.notifyOne waker with pending := s.pending.erase waker } else none
  | .call op => if waitsOn sid op then none else s.call op

end Waiting

/-! ### What makes a stream ready -/

/-- What `wait_for_data` waits for. -/
def Stream.Ready (stream : Stream) : Prop := stream.recvBuf ≠ [] ∨ stream.closed = true

namespace Multiplexer

def Ready (sid : UInt16) (m : Multiplexer) : Prop := ∃ stream, m.streams[sid]? = some stream ∧ stream.Ready

theorem ready_iff {m : Multiplexer} {sid : UInt16} {stream : Stream} (h : m.streams[sid]? = some stream) :
    m.Ready sid ↔ stream.Ready := by
  constructor
  · rintro ⟨stream', hget, hready⟩
    rwa [Option.some.inj (h.symm.trans hget)]
  · exact fun hready => ⟨stream, h, hready⟩

/-- The stream has a waker, which is due a notification if it has become ready. -/
def Wakes (sid : UInt16) (waker : NotifyId) (before : Stream) (notified : List NotifyId)
    (m' : Multiplexer) : Prop :=
  ∃ stream', m'.streams[sid]? = some stream' ∧ stream'.notify = waker ∧
    (stream'.Ready → before.Ready ∨ waker ∈ notified)

section Wakes
variable {m m' : Multiplexer} {sid : UInt16} {stream : Stream}

theorem Wakes.of_get (hget : m'.streams[sid]? = some stream) (notified : List NotifyId) :
    Wakes sid stream.notify stream notified m' :=
  ⟨stream, hget, rfl, Or.inl⟩

/-- A payload that goes into the buffer is announced, and nothing else makes the stream ready. -/
theorem wakes_receiveData (hget : m.streams[sid]? = some stream) (clientId seq : UInt32) (payload : Bytes) :
    Wakes sid stream.notify stream (m.receiveData clientId sid seq payload).2
      (m.receiveData clientId sid seq payload).1 := by
  have hstream : m.streamOr sid clientId = stream := by rw [streamOr, hget, Option.getD_some]
  have hnotify : (stream.adopt clientId).notify = stream.notify := by
    unfold Stream.adopt
    split_ifs <;> rfl
  have hready : (stream.adopt clientId).Ready → stream.Ready := by
    unfold Stream.adopt
    split_ifs
    · rintro (hbuf | hclosed)
      · exact absurd rfl hbuf
      · cases hclosed
    · exact id
  refine ⟨_, receiveData_get m clientId sid seq payload, ?_, ?_⟩
  · rw [(Stream.accept_frame _ _ _).2.2.2, hstream, hnotify]
  · rw [hstream]
    simp only [receiveData, entryOrInsert_fst, hstream]
    unfold Stream.accept
    split_ifs
    · exact fun _ => Or.inr (by simp [hnotify])
    · exact fun h => Or.inl (hready h)
    · exact fun h => Or.inl (hready h)

theorem wakes_sendData (hget : m.streams[sid]? = some stream) (send : SendFn) (data : Bytes) :
    Wakes sid stream.notify stream [] (m.sendData send sid data).mux := by
  refine sendData_keeps (fun m₁ seq m₂ h₁ halloc => ?_) (Wakes.of_get hget []) send data
  obtain ⟨stream₁, hget₁, hnotify, hready⟩ := h₁
  obtain ⟨stream₂, hget₂, -, -, rfl⟩ := allocSeq_eq_some halloc
  obtain rfl : stream₁ = stream₂ := Option.some.inj (hget₁.symm.trans hget₂)
  exact ⟨_, setStream_get _ _ _, hnotify, hready⟩

/-- Every operation but a reset keeps the waker, and announces what makes the stream ready. -/
theorem wakes_perform {op : Operation} (hget : m.streams[sid]? = some stream) (hreset : op.isReset = false)
    (hstep : m.perform op = some m') : Wakes sid stream.notify stream (m.notifiedBy op) m' := by
  cases perform_effect hget hreset hstep with
  | kept hget' => exact Wakes.of_get hget' _
  | sent send data hmux => exact hmux ▸ wakes_sendData hget send data
  | closed send hget' hnotified =>
    refine ⟨_, hget', rfl, fun _ => Or.inr ?_⟩
    rw [notifiedBy, hnotified]
    exact List.mem_singleton_self _
  | read hget' =>
    exact ⟨_, hget', rfl, fun h => Or.inl (Or.inr (h.resolve_left fun hbuf => hbuf rfl))⟩
  | closedByFrame hget' hnotified =>
    refine ⟨_, hget', rfl, fun _ => Or.inr ?_⟩
    rw [notifiedBy, hnotified]
    exact List.mem_singleton_self _
  | received hkind hframe hmux =>
    rw [hmux, notifiedBy, hframe]
    exact wakes_receiveData hget _ _ _

end Wakes

end Multiplexer

/-! ### The wait for one stream -/

/-- The waiter as its waker sees it. -/
def WaiterPc.abs : WaiterPc → CondWait.Pc
  | .cloned _ => .cloned
  | .parked _ => .parked
  | _ => .away

namespace Waiting

open CondWait (Step Inv)
open Multiplexer (Ready)
open Relation (ReflTransGen)

/-- The wait as seen from one waker, with `owed` notifications promised. -/
def abs (waker : NotifyId) (owed : ℕ) (s : Waiting) : CondWait.State Multiplexer :=
  { data := s.mux, waker := s.notifies waker, pc := s.waiter.abs, owed }

/-- The entry has the waker, and so has the waiter once it has looked. -/
structure Held (sid : UInt16) (waker : NotifyId) (s : Waiting) : Prop where
  entry : ∃ stream, s.mux.streams[sid]? = some stream ∧ stream.notify = waker
  cloned : ∀ other, s.waiter = .cloned other → other = waker
  parked : ∀ other, s.waiter = .parked other → other = waker

section Simulation
variable {sid : UInt16} {waker : NotifyId} {s s' : Waiting} {owed : ℕ}

theorem Held.of_waiter (h : Held sid waker s) {mux : Multiplexer}
    (hentry : ∃ stream, mux.streams[sid]? = some stream ∧ stream.notify = waker) (hmux : s'.mux = mux)
    (hwaiter : s'.waiter = s.waiter ∨ s'.waiter.abs = .away) : Held sid waker s' := by
  refine ⟨by rwa [hmux], fun other heq => ?_, fun other heq => ?_⟩
  · rcases hwaiter with hsame | haway
    · exact h.cloned other (hsame ▸ heq)
    · rw [heq] at haway
      cases haway
  · rcases hwaiter with hsame | haway
    · exact h.parked other (hsame ▸ heq)
    · rw [heq] at haway
      cases haway

theorem Held.abs_parked_iff (h : Held sid waker s) : s.waiter.abs = .parked ↔ s.waiter = .parked waker := by
  cases hw : s.waiter with
  | parked other => simp [WaiterPc.abs, h.parked other hw]
  | _ => simp [WaiterPc.abs]

theorem notifyOne_waiter (s : Waiting) (id : NotifyId) :
    (s.notifyOne id).waiter = s.waiter ∨ (s.notifyOne id).waiter.abs = .away := by
  unfold notifyOne
  dsimp only
  split_ifs
  · exact Or.inr rfl
  · exact Or.inl rfl

theorem Held.notifyOne (h : Held sid waker s) (id : NotifyId) : Held sid waker (s.notifyOne id) :=
  h.of_waiter h.entry rfl (notifyOne_waiter s id)

/-- A notification of the waker is a step of the abstract wait, and one of another waker is none. -/
theorem Held.notifyOne_steps (h : Held sid waker s) (id : NotifyId)
    (hinv : Inv (Ready sid) (abs waker (owed + [id].count waker) s)) :
    ReflTransGen (Step (Ready sid)) (abs waker (owed + [id].count waker) s) (abs waker owed (s.notifyOne id)) := by
  by_cases hid : id = waker
  · subst hid
    have hwaiting : s.notifies id = .waiting ↔ s.waiter = .parked id := hinv.waiting.trans h.abs_parked_iff
    have hpc : (s.notifyOne id).waiter.abs = if s.notifies id = .waiting then .away else s.waiter.abs := by
      unfold Waiting.notifyOne
      by_cases hw : s.notifies id = .waiting
      · simp [hw, hwaiting.mp hw, WaiterPc.abs]
      · simp [hw]
    have habs : abs id owed (s.notifyOne id) = { abs id (owed + 1) s with
        waker := (s.notifies id).notifyOne
        pc := if s.notifies id = .waiting then .away else s.waiter.abs
        owed } := by
      rw [abs, hpc]
      simp [abs, Waiting.notifyOne]
    rw [habs]
    exact ReflTransGen.single (Step.notify (by simp [abs]))
  · have hpc : s.waiter ≠ .parked id := fun hparked => hid (h.parked id hparked)
    have habs : abs waker owed (s.notifyOne id) = abs waker (owed + [id].count waker) s := by
      have hne : waker ≠ id := fun heq => hid heq.symm
      simp [abs, Waiting.notifyOne, hpc, hid, hne]
    rw [habs]

theorem Held.foldl_notifyOne (h : Held sid waker s) (ids : List NotifyId)
    (hinv : Inv (Ready sid) (abs waker (owed + ids.count waker) s)) :
    Held sid waker (ids.foldl Waiting.notifyOne s) ∧
      ReflTransGen (Step (Ready sid)) (abs waker (owed + ids.count waker) s)
        (abs waker owed (ids.foldl Waiting.notifyOne s)) := by
  induction ids generalizing s with
  | nil => exact ⟨h, ReflTransGen.refl⟩
  | cons id ids ih =>
    have hcount : owed + (id :: ids).count waker = owed + ids.count waker + [id].count waker := by
      rw [List.count_cons, List.count_singleton]
      omega
    rw [hcount] at hinv ⊢
    have hfirst := h.notifyOne_steps id hinv
    obtain ⟨hheld, hrest⟩ := ih (h.notifyOne id) (hinv.steps hfirst)
    exact ⟨hheld, hfirst.trans hrest⟩

theorem foldl_notifyOne_pending (ids : List NotifyId) (s : Waiting) :
    (ids.foldl Waiting.notifyOne s).pending = s.pending := by
  induction ids generalizing s with
  | nil => rfl
  | cons id ids ih => exact ih _

/-- Looking at an entry that is there leaves the table as it is. -/
theorem look_of_get {stream : Stream} (hget : s.mux.streams[sid]? = some stream) :
    (stream.Ready ∧ s.look sid = { s with waiter := .away }) ∨
      (¬stream.Ready ∧ s.look sid = { s with waiter := .cloned stream.notify }) := by
  have hentry : s.mux.entryOrInsert sid s.mux.clientId = (stream, s.mux) := by
    rw [Multiplexer.entryOrInsert, hget]
  unfold look Multiplexer.waitForData
  rw [hentry]
  dsimp only
  by_cases hready : stream.recvBuf ≠ [] ∨ stream.closed = true
  · rw [if_pos hready]
    exact Or.inl ⟨hready, rfl⟩
  · rw [if_neg hready]
    exact Or.inr ⟨hready, rfl⟩

/-- A look at an entry with data is none of the abstract wait; without data it is its check. -/
theorem Held.look (h : Held sid waker s) (hlooking : s.waiter = .looking) :
    Held sid waker (s.look sid) ∧ ReflTransGen (Step (Ready sid)) (abs waker (s.pending.count waker) s)
      (abs waker ((s.look sid).pending.count waker) (s.look sid)) := by
  obtain ⟨stream, hget, hnotify⟩ := h.entry
  obtain ⟨hready, hlook⟩ | ⟨hready, hlook⟩ := look_of_get hget
  · rw [hlook]
    refine ⟨h.of_waiter h.entry rfl (Or.inr rfl), ?_⟩
    simp only [abs, hlooking, WaiterPc.abs]
    exact ReflTransGen.refl
  · rw [hlook, hnotify]
    refine ⟨⟨h.entry, fun other heq => (WaiterPc.cloned.inj heq).symm, fun other heq => (nomatch heq)⟩, ?_⟩
    refine ReflTransGen.single (Step.check ?_ ?_)
    · rw [abs, hlooking]
      rfl
    · exact fun hr => hready ((Multiplexer.ready_iff hget).mp hr)

/-- The waiter parks on the waker of its entry, or takes the permit that is there. -/
theorem Held.park (h : Held sid waker s) (hcloned : s.waiter = .cloned waker) :
    Held sid waker (s.park waker) ∧ ReflTransGen (Step (Ready sid)) (abs waker (s.pending.count waker) s)
      (abs waker ((s.park waker).pending.count waker) (s.park waker)) := by
  refine ⟨⟨h.entry, ?_, ?_⟩, ?_⟩
  · intro other heq
    simp only [Waiting.park] at heq
    split_ifs at heq
  · intro other heq
    simp only [Waiting.park] at heq
    split_ifs at heq
    exact (WaiterPc.parked.inj heq).symm
  · have habs : abs waker ((s.park waker).pending.count waker) (s.park waker) =
        { abs waker (s.pending.count waker) s with
          waker := (s.notifies waker).notified
          pc := if s.notifies waker = .permit then .away else .parked } := by
      simp only [abs, Waiting.park, Function.update_self]
      split_ifs <;> rfl
    rw [habs]
    refine ReflTransGen.single (Step.park ?_)
    rw [abs, hcloned]
    rfl

/-- An operation changes the data, and what it notifies is notified now or later. -/
theorem Held.perform (h : Held sid waker s) {op : Operation} (hreset : (WaitEvent.call op).isReset = false)
    {mux : Multiplexer} (hperform : s.mux.perform op = some mux) :
    Held sid waker { s with mux } ∧ Step (Ready sid) (abs waker (s.pending.count waker) s)
      (abs waker (s.pending.count waker + (s.mux.notifiedBy op).count waker) { s with mux }) := by
  obtain ⟨stream, hget, hnotify⟩ := h.entry
  obtain ⟨stream', hget', hnotify', hready⟩ := Multiplexer.wakes_perform hget hreset hperform
  rw [hnotify] at hready hnotify'
  refine ⟨h.of_waiter ⟨stream', hget', hnotify'⟩ rfl (Or.inl rfl), Step.change mux _ fun hr => ?_⟩
  rw [Multiplexer.ready_iff hget'] at hr
  exact (hready hr).imp (Multiplexer.ready_iff hget).mpr List.count_pos_iff.mpr

/-- Every step of the waiter and the notifiers is one of the abstract wait, or none of it. -/
theorem Held.step (h : Held sid waker s) {e : WaitEvent} (hreset : e.isReset = false)
    (hinv : Inv (Ready sid) (abs waker (s.pending.count waker) s)) (hstep : s.step sid e = some s') :
    Held sid waker s' ∧ ReflTransGen (Step (Ready sid)) (abs waker (s.pending.count waker) s)
      (abs waker (s'.pending.count waker) s') := by
  cases e with
  | enter =>
    simp only [Waiting.step] at hstep
    split_ifs at hstep with haway
    obtain rfl := Option.some.inj hstep
    refine ⟨h.of_waiter h.entry rfl (Or.inr rfl), ?_⟩
    simp only [abs, haway, WaiterPc.abs]
    exact ReflTransGen.refl
  | look =>
    simp only [Waiting.step] at hstep
    split_ifs at hstep with hlooking
    obtain rfl := Option.some.inj hstep
    exact h.look hlooking
  | park =>
    simp only [Waiting.step] at hstep
    cases hw : s.waiter with
    | cloned other =>
      obtain rfl := h.cloned other hw
      rw [hw] at hstep
      obtain rfl := Option.some.inj hstep
      exact h.park hw
    | _ => simp [hw] at hstep
  | notify id =>
    simp only [Waiting.step] at hstep
    split_ifs at hstep with hmem
    obtain rfl := Option.some.inj hstep
    have hcount : s.pending.count waker = (s.pending.erase id).count waker + [id].count waker := by
      rw [List.count_erase, List.count_singleton]
      by_cases hid : id = waker
      · subst hid
        have hpos := List.count_pos_iff.mpr hmem
        simp
        omega
      · simp [hid]
    refine ⟨(h.notifyOne id).of_waiter h.entry rfl (Or.inl rfl), ?_⟩
    rw [hcount] at hinv ⊢
    exact h.notifyOne_steps id hinv
  | call op =>
    simp only [Waiting.step] at hstep
    split_ifs at hstep
    obtain ⟨mux, hperform, rfl⟩ := Option.map_eq_some_iff.mp hstep
    obtain ⟨hheld, hchange⟩ := h.perform hreset hperform
    split_ifs with hlocked
    · obtain ⟨hfold, hsteps⟩ := hheld.foldl_notifyOne (s.mux.notifiedBy op) (hinv.step hchange)
      refine ⟨hfold, ?_⟩
      rw [foldl_notifyOne_pending]
      exact ReflTransGen.head hchange hsteps
    · refine ⟨hheld.of_waiter hheld.entry rfl (Or.inl rfl), ?_⟩
      rw [List.count_append]
      exact ReflTransGen.single hchange

end Simulation

/-- The invariant of the wait and of its abstraction. -/
def Sound (sid : UInt16) (waker : NotifyId) (s : Waiting) : Prop :=
  Held sid waker s ∧ Inv (Ready sid) (abs waker (s.pending.count waker) s)

theorem Sound.step {sid : UInt16} {waker : NotifyId} {s s' : Waiting} (h : Sound sid waker s) {e : WaitEvent}
    (hreset : e.isReset = false) (hstep : s.step sid e = some s') : Sound sid waker s' := by
  obtain ⟨hheld, hsteps⟩ := h.1.step hreset h.2 hstep
  exact ⟨hheld, h.2.steps hsteps⟩

/-- Where `open_stream` has gone from `m` to `m₀` and made a new waker. -/
def start (m m₀ : Multiplexer) (notifies : NotifyId → Notify) (pending : List NotifyId) : Waiting :=
  { mux := m₀, notifies := Function.update notifies m.nextNotify .idle, waiter := .away, pending }

theorem sound_start {m m₀ : Multiplexer} {sid : UInt16} (hopen : m.openStream = some (sid, m₀))
    (notifies : NotifyId → Notify) (pending : List NotifyId) :
    Sound sid m.nextNotify (start m m₀ notifies pending) := by
  refine ⟨⟨⟨Stream.fresh 0 m.nextNotify, ?_, rfl⟩, fun _ heq => (nomatch heq), fun _ heq => (nomatch heq)⟩, ?_, ?_⟩
  · show m₀.streams[sid]? = _
    rw [(Multiplexer.openLoop_spec hopen).2.2.1, Std.ExtTreeMap.getElem?_insert_self]
  · simp [abs, start, WaiterPc.abs]
  · exact fun _ hpc => absurd rfl hpc

/-- For a stream made by `open_stream`, in every interleaving of its waiter with all
operations but resets: while no notification of its waker is outstanding, so in
particular while no operation is midway, the waiter is not parked on a stream that has
data or is closed. -/
theorem no_lost_wakeup (m m₀ : Multiplexer) (sid : UInt16) (hopen : m.openStream = some (sid, m₀))
    (notifies : NotifyId → Notify) (pending : List NotifyId) (events : List WaitEvent)
    (hreset : ∀ e ∈ events, e.isReset = false) (s : Waiting)
    (hrun : run (step sid) (start m m₀ notifies pending) events = some s)
    (hsettled : m.nextNotify ∉ s.pending) (stream : Stream) (hget : s.mux.streams[sid]? = some stream)
    (hready : stream.recvBuf ≠ [] ∨ stream.closed = true) (waker : NotifyId) :
    s.waiter ≠ .parked waker := by
  have hguard : Guarded (step sid) (fun _ e => e.isReset = false) (start m m₀ notifies pending) events :=
    guarded_of_forall hreset
  have hsound : Sound sid m.nextNotify s := run_invariant_of_guarded
    (fun _ _ _ h hg hstep => Sound.step h hg hstep) (sound_start hopen notifies pending) hguard hrun
  have howed : (abs m.nextNotify (s.pending.count m.nextNotify) s).owed = 0 := List.count_eq_zero.mpr hsettled
  intro hparked
  refine hsound.2.not_parked howed ((Multiplexer.ready_iff hget).mpr hready) ?_
  rw [abs, hparked]
  rfl

/-- Data of a server arrives after the look and before the wait, which then takes the permit. -/
theorem no_lost_wakeup_late_park :
    ∃ m₀ s, (Multiplexer.new 3).openStream = some (1, m₀) ∧
      run (step 1) (start (Multiplexer.new 3) m₀ (fun _ => .idle) []) [.enter, .look,
        .call (.handleFrame (dataFrame 7 1 0 [9])), .notify 0, .park] = some s ∧
      s.mux.streams[(1 : UInt16)]? = some { Stream.fresh 7 0 with recvBuf := [9], nextRecvSeq := 1 } ∧
      ∀ waker, s.waiter ≠ .parked waker := by
  have hopen := (Option.some_get (show (Multiplexer.new 3).openStream.isSome by decide)).symm
  have hrun := (Option.some_get (show (run (step 1) (start (Multiplexer.new 3)
    ((Multiplexer.new 3).openStream.get (by decide)).2 (fun _ => .idle) []) [.enter, .look,
      .call (.handleFrame (dataFrame 7 1 0 [9])), .notify 0, .park]).isSome by decide)).symm
  refine ⟨_, _, hopen, hrun, by decide, ?_⟩
  exact no_lost_wakeup (Multiplexer.new 3) _ 1 hopen (fun _ => .idle) [] _ (by decide) _ hrun (by decide)
    { Stream.fresh 7 0 with recvBuf := [9], nextRecvSeq := 1 } (by decide) (Or.inl (by decide))

end Waiting

end TauriVpn.Olcrtc
