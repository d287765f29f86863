import TauriVpn.Olcrtc.Slot

/-! Streams do not interfere. What one stream sees of a run of the multiplexer is
the same after the operations that do not concern it are deleted from the run. -/

namespace TauriVpn.Olcrtc

open StepSystem

/-- What a call gives back or sends for one stream. -/
inductive Observation where
  | read (bytes : Bytes)
  | sent (frames : List Bytes) (result : Except VpnError Unit)
  | waited (ready : Bool)

namespace Multiplexer

/-- What the call on the multiplexer puts out for `sid`. -/
def observe (sid : UInt16) (m : Multiplexer) : Operation → List Observation
  | .sendData send sid' data =>
    let sent := m.sendData send sid' data
    if sid' = sid then [.sent sent.frames sent.result] else []
  | .closeStream send sid' =>
    let sent := m.closeStream send sid'
    if sid' = sid then [.sent sent.frames sent.result] else []
  | .readStream sid' => if sid' = sid then [.read (m.readStream sid').1] else []
  | .waitForData sid' => if sid' = sid then [.waited (m.waitForData sid').1.isNone] else []
  | _ => []

theorem observe_of_not_concerns {sid : UInt16} {op : Operation} (h : ¬op.Concerns sid) (m : Multiplexer) :
    m.observe sid op = [] := by
  have hne : ∀ sid', op.sid? = some sid' → sid' ≠ sid := fun sid' hsid heq => h (Or.inl (heq ▸ hsid))
  cases op with
  | sendData send sid' data => exact if_neg (hne _ rfl)
  | closeStream send sid' => exact if_neg (hne _ rfl)
  | readStream sid' => exact if_neg (hne _ rfl)
  | waitForData sid' => exact if_neg (hne _ rfl)
  | openStream => rfl
  | sendClientReset send => rfl
  | handleFrame frame => rfl

/-- The two multiplexers are the same client and have the same entry for `sid`. -/
structure SameSlot (sid : UInt16) (m m' : Multiplexer) : Prop where
  clientId : m'.clientId = m.clientId
  slot : m'.slot sid = m.slot sid

section SameSlot
variable {sid : UInt16} {m m' m₁ m₁' : Multiplexer}

theorem SameSlot.refl (sid : UInt16) (m : Multiplexer) : SameSlot sid m m := ⟨rfl, rfl⟩

theorem SameSlot.trans {m'' : Multiplexer} (h : SameSlot sid m m') (h' : SameSlot sid m' m'') :
    SameSlot sid m m'' :=
  ⟨h'.clientId.trans h.clientId, h'.slot.trans h.slot⟩

theorem SameSlot.allocSeq (h : SameSlot sid m m') :
    (m.allocSeq sid = none ∧ m'.allocSeq sid = none) ∨
      ∃ seq m₁ m₁', m.allocSeq sid = some (seq, m₁) ∧ m'.allocSeq sid = some (seq, m₁') ∧
        SameSlot sid m₁ m₁' := by
  have heq := slot_allocSeq m' sid
  rw [h.slot, ← slot_allocSeq m sid] at heq
  cases hm : m.allocSeq sid with
  | none =>
    rw [hm, Option.map_none, Option.map_eq_none_iff] at heq
    exact Or.inl ⟨rfl, heq⟩
  | some alloc =>
    obtain ⟨alloc', hm', hpair⟩ := Option.map_eq_some_iff.mp (heq.trans (by rw [hm, Option.map_some]))
    obtain ⟨hseq, hslot⟩ := Prod.mk.inj hpair
    obtain ⟨_, -, -, -, hmux⟩ := allocSeq_eq_some (show m.allocSeq sid = some (alloc.1, alloc.2) from hm)
    obtain ⟨_, -, -, -, hmux'⟩ := allocSeq_eq_some (show m'.allocSeq sid = some (alloc'.1, alloc'.2) from hm')
    refine Or.inr ⟨alloc.1, alloc.2, alloc'.2, rfl, by rw [hm', ← hseq], ?_, hslot⟩
    rw [hmux, hmux', setStream_clientId, setStream_clientId, h.clientId]

theorem SameSlot.sendChunks (h : SameSlot sid m m') (send : SendFn) (chunks : List Bytes) :
    (sendChunks send sid m' chunks).frames = (sendChunks send sid m chunks).frames ∧
      (sendChunks send sid m' chunks).result = (sendChunks send sid m chunks).result ∧
      SameSlot sid (sendChunks send sid m chunks).mux (sendChunks send sid m' chunks).mux := by
  induction chunks generalizing m m' with
  | nil => exact ⟨rfl, rfl, h⟩
  | cons chunk rest ih =>
    obtain ⟨hm, hm'⟩ | ⟨seq, m₁, m₁', hm, hm', h₁⟩ := h.allocSeq
    · simp only [Multiplexer.sendChunks, hm, hm']
      exact ⟨trivial, trivial, h⟩
    · simp only [Multiplexer.sendChunks, hm, hm', h₁.clientId]
      cases send (dataFrame m₁.clientId sid seq chunk) with
      | error error => exact ⟨rfl, rfl, h₁⟩
      | ok _ =>
        obtain ⟨hframes, hresult, hrest⟩ := ih h₁
        exact ⟨by rw [hframes], hresult, hrest⟩

theorem SameSlot.perform_clientId (h : SameSlot sid m m') {op : Operation} (hm : m.perform op = some m₁)
    (hm' : m'.perform op = some m₁') : m₁'.clientId = m₁.clientId := by
  rw [Multiplexer.perform_clientId hm, Multiplexer.perform_clientId hm', h.clientId]

/-- A frame does to one entry what that entry decides. -/
theorem SameSlot.handleFrame (h : SameSlot sid m m') {frame : Bytes}
    (hop : (Operation.handleFrame frame).Concerns sid) :
    (m'.handleFrame frame).1.slot sid = (m.handleFrame frame).1.slot sid := by
  rw [handleFrame_classify, handleFrame_classify]
  cases hkind : classify frame with
  | ignored => exact h.slot
  | reset clientId =>
    dsimp only
    rw [slot_resetClient, slot_resetClient, h.slot]
  | close sid' clientId =>
    obtain rfl : sid' = sid := by simpa [Operation.Concerns, Operation.sid?, Operation.isReset, hkind] using hop
    dsimp only
    rw [slot_markClosed, slot_markClosed, h.slot]
  | data sid' clientId seq payload =>
    obtain rfl : sid' = sid := by simpa [Operation.Concerns, Operation.sid?, Operation.isReset, hkind] using hop
    dsimp only
    rw [slot_receiveData, slot_receiveData, h.slot]

/-- An operation on the stream puts out the same and leaves the same entry. -/
theorem SameSlot.perform (h : SameSlot sid m m') {op : Operation} (hop : op.Concerns sid)
    (hm : m.perform op = some m₁) (hm' : m'.perform op = some m₁') :
    SameSlot sid m₁ m₁' ∧ m'.observe sid op = m.observe sid op := by
  have hclient := h.perform_clientId hm hm'
  have hsid : op.isReset = false → op.sid? = some sid := fun hreset => hop.resolve_right (by simp [hreset])
  cases op with
  | openStream => simp [Operation.Concerns, Operation.sid?, Operation.isReset] at hop
  | sendClientReset send => simp [Operation.Concerns, Operation.sid?, Operation.isReset] at hop
  | sendData send sid' data =>
    obtain rfl : sid' = sid := Option.some.inj (hsid rfl)
    obtain ⟨hframes, hresult, hmux⟩ := h.sendChunks send (Chunking.chunks chunkSize data)
    refine ⟨Option.some.inj hm ▸ Option.some.inj hm' ▸ hmux, ?_⟩
    simp only [observe, Multiplexer.sendData, hframes, hresult]
  | closeStream send sid' =>
    obtain rfl : sid' = sid := Option.some.inj (hsid rfl)
    refine ⟨⟨hclient, ?_⟩, ?_⟩
    · rw [← Option.some.inj hm, ← Option.some.inj hm', slot_closeStream, slot_closeStream, h.slot]
    · simp only [observe, (closeStream_sent _ send sid').1, (closeStream_sent _ send sid').2, h.clientId]
  | readStream sid' =>
    obtain rfl : sid' = sid := Option.some.inj (hsid rfl)
    refine ⟨⟨hclient, ?_⟩, ?_⟩
    · rw [← Option.some.inj hm, ← Option.some.inj hm', (slot_readStream m sid').2, (slot_readStream m' sid').2,
        h.slot]
    · simp only [observe, (slot_readStream m sid').1, (slot_readStream m' sid').1, h.slot]
  | waitForData sid' =>
    obtain rfl : sid' = sid := Option.some.inj (hsid rfl)
    refine ⟨⟨hclient, ?_⟩, ?_⟩
    · rw [← Option.some.inj hm, ← Option.some.inj hm', (slot_waitForData m sid').2,
        (slot_waitForData m' sid').2, h.slot, h.clientId]
    · simp only [observe, (slot_waitForData m sid').1, (slot_waitForData m' sid').1, h.slot, h.clientId]
  | handleFrame frame =>
    refine ⟨⟨hclient, ?_⟩, rfl⟩
    rw [← Option.some.inj hm, ← Option.some.inj hm']
    exact h.handleFrame hop

end SameSlot

theorem perform_of_not_open (m : Multiplexer) {op : Operation} (h : op.isOpen = false) :
    ∃ m', m.perform op = some m' := by
  cases op with
  | openStream => cases h
  | sendData send sid data => exact ⟨_, rfl⟩
  | closeStream send sid => exact ⟨_, rfl⟩
  | sendClientReset send => exact ⟨_, rfl⟩
  | handleFrame frame => exact ⟨_, rfl⟩
  | readStream sid => exact ⟨_, rfl⟩
  | waitForData sid => exact ⟨_, rfl⟩

theorem run_of_not_open (m : Multiplexer) {ops : List Operation} (h : ∀ op ∈ ops, op.isOpen = false) :
    ∃ m', run perform m ops = some m' := by
  induction ops generalizing m with
  | nil => exact ⟨m, rfl⟩
  | cons op ops ih =>
    obtain ⟨hop, hops⟩ := List.forall_mem_cons.mp h
    obtain ⟨m₁, hstep⟩ := perform_of_not_open m hop
    obtain ⟨m', hrun⟩ := ih m₁ hops
    exact ⟨m', by rw [run_cons hstep, hrun]⟩

/-- Having the same entry unwinds the operations that do not concern the stream. -/
theorem sameSlot_unwinding (sid : UInt16) : Unwinding perform (observe sid) (fun op => op.isOpen = false)
    (fun op => op.Concerns sid) (SameSlot sid) where
  consistent := by
    intro m m' op m₁ h hopen hstep
    obtain ⟨m₁', hstep'⟩ := perform_of_not_open m' hopen
    by_cases hop : op.Concerns sid
    · exact ⟨m₁', hstep', h.perform hop hstep hstep'⟩
    · refine ⟨m₁', hstep', ⟨h.perform_clientId hstep hstep', ?_⟩, ?_⟩
      · rw [slot, slot, perform_get_of_not_concerns hopen hop hstep,
          perform_get_of_not_concerns hopen hop hstep']
        exact h.slot
      · rw [observe_of_not_concerns hop, observe_of_not_concerns hop]
  respects := by
    intro m m' op m₁ h hopen hop hstep
    refine ⟨SameSlot.trans ⟨(perform_clientId hstep).symm, ?_⟩ h, observe_of_not_concerns hop m⟩
    rw [slot, slot, perform_get_of_not_concerns hopen hop hstep]

/-- From any state, deleting operations that neither work on `sid` nor are a client
reset changes neither the final entry of `sid` nor what is read, sent and waited for on it. -/
theorem streams_isolated (m : Multiplexer) (sid : UInt16) (ops : List Operation)
    (hopen : ∀ op ∈ ops, op.isOpen = false) (keep : Operation → Bool)
    (hkeep : ∀ op, op.Concerns sid → keep op = true) :
    ∃ m₁ m₂, run perform m ops = some m₁ ∧ run perform m (ops.filter keep) = some m₂ ∧
      m₂.slot sid = m₁.slot sid ∧
      trace perform (observe sid) m (ops.filter keep) = trace perform (observe sid) m ops := by
  obtain ⟨m₁, hrun⟩ := run_of_not_open m hopen
  obtain ⟨m₂, hrun', hsame, htrace⟩ :=
    (sameSlot_unwinding sid).run_filter keep hkeep hopen (SameSlot.refl sid m) hrun
  exact ⟨m₁, m₂, hrun, hrun', hsame.slot, htrace⟩

/-- Two streams take turns, a truncated frame and a reset of a third client among them. -/
theorem streams_isolated_two :
    let ops : List Operation := [.handleFrame (dataFrame 0 1 0 [5]), .handleFrame (dataFrame 0 2 0 [6]),
      .sendData (fun _ => .ok ()) 2 [7], .handleFrame [0, 0, 0], .waitForData 1, .readStream 1,
      .handleFrame (resetFrame 9), .closeStream (fun _ => .ok ()) 2, .sendData (fun _ => .ok ()) 1 [8]]
    ∃ m₁ m₂, run perform (new 3) ops = some m₁ ∧
      run perform (new 3) (ops.filter fun op => decide (op.Concerns 1)) = some m₂ ∧
      m₂.slot 1 = m₁.slot 1 ∧
      trace perform (observe 1) (new 3) (ops.filter fun op => decide (op.Concerns 1)) =
        trace perform (observe 1) (new 3) ops :=
  streams_isolated (new 3) 1 _ (by simp [Operation.isOpen]) (fun op => decide (op.Concerns 1)) (by simp)

end Multiplexer

end TauriVpn.Olcrtc
