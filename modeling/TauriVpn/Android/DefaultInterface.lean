import TauriVpn.Lib.StepSystem
import TauriVpn.Text

/-! The monitor of the default interface. libbox sends its own connections out of the
interface that it is told here, so it must not be told the one of its own tunnel. What the
system knows is read piece by piece and may change between any two reads, so a call is given
what it would read at each moment. -/

namespace TauriVpn.Android

open StepSystem

structure Network where
  handle : ℕ
  deriving DecidableEq, Repr

structure NetworkCapabilities where
  internet : Bool := true
  notVpn : Bool := true
  transportVpn : Bool := false
  notMetered : Bool := true
  notCongested : Bool := true

/-- `isUnderlyingNetwork`. -/
def NetworkCapabilities.isUnderlying (c : NetworkCapabilities) : Bool := c.internet && c.notVpn && !c.transportVpn

/-- What the system answers at one moment. -/
structure Connectivity where
  activeNetwork : Option Network
  allNetworks : List Network
  interfaceName : Network → Option String
  interfaceIndex : String → Option ℤ
  capabilities : Network → Option NetworkCapabilities

/-- What libbox is told. -/
structure InterfaceUpdate where
  name : String
  index : ℤ
  expensive : Bool
  constrained : Bool
  deriving DecidableEq, Repr

def noInterface : InterfaceUpdate := ⟨"", -1, false, false⟩

/-- `Char.isWhitespace` of Kotlin: the separators of Unicode and the control characters that
separate lines, words and records. -/
def isKotlinWhitespace (c : Char) : Bool :=
  let n := c.toNat
  (9 ≤ n && n ≤ 13) || (0x1C ≤ n && n ≤ 0x20) || n == 0xA0 || n == 0x1680 || (0x2000 ≤ n && n ≤ 0x200A) ||
    n == 0x2028 || n == 0x2029 || n == 0x202F || n == 0x205F || n == 0x3000

/-- The name of an interface, when it is not blank. -/
def nonBlank (name : Option String) : Option String := name.filter fun name => !name.toList.all isKotlinWhitespace

/-- The congestion of a network is known from Android 9 on. -/
def versionP : ℕ := 28

def InterfaceUpdate.of (sdk : ℕ) (name : String) (index : ℤ) (c : NetworkCapabilities) : InterfaceUpdate where
  name
  index
  expensive := !c.notMetered
  constrained := decide (versionP ≤ sdk) && !c.notCongested

def Connectivity.underlying (now : Connectivity) (network : Network) : Bool :=
  (now.capabilities network).any NetworkCapabilities.isUnderlying

/-! ### One call -/

section Call
variable (reads : ℕ → Connectivity) (sdk : ℕ)

/-- The first of the networks that is underlying when it is looked at. -/
def firstUnderlying (excluding : Option Network) : List Network → ℕ → Option Network × ℕ
  | [], t => (none, t)
  | network :: rest, t =>
    if some network = excluding then firstUnderlying excluding rest t
    else if (reads t).underlying network then (some network, t + 1)
    else firstUnderlying excluding rest (t + 1)

def defaultUnderlyingNetwork (excluding : Option Network) (t : ℕ) : Option Network × ℕ :=
  let anyNetwork (t : ℕ) := firstUnderlying reads excluding (reads t).allNetworks (t + 1)
  match (reads t).activeNetwork with
  | none => anyNetwork (t + 1)
  | some active =>
    if some active = excluding then anyNetwork (t + 1)
    else if (reads (t + 1)).underlying active then (some active, t + 2)
    else anyNetwork (t + 2)

/-- How the attempts to read the interface of a network end. -/
inductive Attempts where
  | found (update : InterfaceUpdate)
  | notUnderlying
  | exhausted

/-- The loop of `updateDefaultInterface`: an attempt fails while the network has no interface. -/
def attemptInterface (network : Network) : ℕ → ℕ → Attempts × ℕ
  | 0, t => (.exhausted, t)
  | left + 1, t =>
    match nonBlank ((reads t).interfaceName network) with
    | none => attemptInterface network left (t + 1)
    | some name =>
      match (reads (t + 1)).interfaceIndex name with
      | none => attemptInterface network left (t + 2)
      | some index =>
        match ((reads (t + 2)).capabilities network).filter (·.isUnderlying) with
        | none => (.notUnderlying, t + 3)
        | some c => (.found (.of sdk name index c), t + 3)

/-- `updateDefaultInterface`, with what the listener is told. A network that has stopped being
underlying sends the call to the default one; `rounds` bounds how often. -/
def updateDefaultInterface : ℕ → Option Network → ℕ → Option (InterfaceUpdate × ℕ)
  | 0, _, _ => none
  | _ + 1, none, t => some (noInterface, t)
  | rounds + 1, some network, t =>
    match attemptInterface reads sdk network 10 t with
    | (.found update, t) => some (update, t)
    | (.exhausted, t) => some (noInterface, t)
    | (.notUnderlying, t) =>
      let next := defaultUnderlyingNetwork reads (some network) t
      updateDefaultInterface rounds next.1 next.2

/-- The interface was that of a network, there was one of its name, and the network was an
underlying one, at three reads one after the other. -/
def Justified (update : InterfaceUpdate) : Prop :=
  ∃ network t name index c, nonBlank ((reads t).interfaceName network) = some name ∧
    (reads (t + 1)).interfaceIndex name = some index ∧ (reads (t + 2)).capabilities network = some c ∧
    c.isUnderlying = true ∧ update = .of sdk name index c

variable {reads sdk}

theorem attemptInterface_justified {network : Network} {left t t' : ℕ} {update : InterfaceUpdate}
    (h : attemptInterface reads sdk network left t = (.found update, t')) : Justified reads sdk update := by
  induction left generalizing t with
  | zero => cases h
  | succ left ih =>
    rw [attemptInterface] at h
    split at h
    · exact ih h
    next name hname =>
      split at h
      · exact ih h
      next index hindex =>
        split at h
        · cases h
        next c hc =>
          obtain ⟨hcapabilities, hunderlying⟩ := Option.filter_eq_some_iff.mp hc
          cases h
          exact ⟨network, t, name, index, c, hname, hindex, hcapabilities, hunderlying, rfl⟩

/-- Whatever changes during the call: an interface that is told is one of an underlying network. -/
theorem updateDefaultInterface_justified {rounds t t' : ℕ} {network : Option Network} {update : InterfaceUpdate}
    (h : updateDefaultInterface reads sdk rounds network t = some (update, t')) :
    update = noInterface ∨ Justified reads sdk update := by
  induction rounds generalizing network t with
  | zero => cases h
  | succ rounds ih =>
    cases network with
    | none =>
      cases h
      exact Or.inl rfl
    | some network =>
      rw [updateDefaultInterface] at h
      split at h
      next update' t'' hfound =>
        cases h
        exact Or.inr (attemptInterface_justified hfound)
      · cases h
        exact Or.inl rfl
      · exact ih h

end Call

/-! ### The monitor -/

/-- The listeners are numbered; a callback holds the one that it was made with, and `told` is
what each was told so far. -/
structure InterfaceMonitor where
  defaultInterfaceListener : Option ℕ := none
  defaultNetworkCallback : Option ℕ := none
  told : List (ℕ × InterfaceUpdate) := []

/-- libbox starts and closes the monitor, and the system calls back: `changed` stands for
`onAvailable`, `onCapabilitiesChanged` and `onLinkPropertiesChanged`, which do the same. -/
inductive MonitorEvent where
  | start (listener : ℕ) (reads : ℕ → Connectivity) (rounds : ℕ)
  | close
  | changed (network : Network) (reads : ℕ → Connectivity) (rounds : ℕ)
  | lost (network : Network) (reads : ℕ → Connectivity) (rounds : ℕ)

def MonitorEvent.reads? : MonitorEvent → Option (ℕ → Connectivity)
  | .start _ reads _ | .changed _ reads _ | .lost _ reads _ => some reads
  | .close => none

namespace InterfaceMonitor

variable (sdk : ℕ)

def tell (m : InterfaceMonitor) (listener : ℕ) (update : InterfaceUpdate) : InterfaceMonitor :=
  { m with told := m.told ++ [(listener, update)] }

/-- Nobody is told when there is no listener; a call that does not return is no step. -/
def update (m : InterfaceMonitor) (reads : ℕ → Connectivity) (rounds : ℕ) (network : Option Network) (t : ℕ) :
    Option InterfaceMonitor :=
  match m.defaultInterfaceListener with
  | none => some m
  | some listener => (updateDefaultInterface reads sdk rounds network t).map fun told => m.tell listener told.1

/-- A callback that is there already is kept, and with it its listener. -/
def startDefaultInterfaceMonitor (m : InterfaceMonitor) (listener : ℕ) : InterfaceMonitor :=
  { m with
    defaultInterfaceListener := some listener
    defaultNetworkCallback := m.defaultNetworkCallback.or (some listener) }

def closeDefaultInterfaceMonitor (m : InterfaceMonitor) : InterfaceMonitor :=
  { m with defaultInterfaceListener := none, defaultNetworkCallback := none }

def step (m : InterfaceMonitor) : MonitorEvent → Option InterfaceMonitor
  | .start listener reads rounds =>
    let next := defaultUnderlyingNetwork reads none 0
    (m.startDefaultInterfaceMonitor listener).update sdk reads rounds next.1 next.2
  | .close => some m.closeDefaultInterfaceMonitor
  | .changed network reads rounds => m.defaultNetworkCallback.bind fun _ => m.update sdk reads rounds (some network) 0
  | .lost network reads rounds => m.defaultNetworkCallback.bind fun listener =>
    let first := defaultUnderlyingNetwork reads none 0
    if first.1 = some network then some (m.tell listener noInterface)
    else
      let second := defaultUnderlyingNetwork reads none first.2
      m.update sdk reads rounds second.1 second.2

variable {sdk} {m m' : InterfaceMonitor} {e : MonitorEvent} {events : List MonitorEvent}

/-- A call adds at most one thing that is told. -/
theorem update_told {reads : ℕ → Connectivity} {rounds t : ℕ} {network : Option Network}
    (h : m.update sdk reads rounds network t = some m') : ∀ entry ∈ m'.told, entry ∈ m.told ∨
      entry.2 = noInterface ∨ Justified reads sdk entry.2 := by
  intro entry hentry
  unfold update at h
  split at h
  · cases h
    exact Or.inl hentry
  next listener hlistener =>
    obtain ⟨⟨told, t'⟩, htold, rfl⟩ := Option.map_eq_some_iff.mp h
    rcases List.mem_append.mp hentry with hold | hnew
    · exact Or.inl hold
    · rw [List.mem_singleton.mp hnew]
      exact Or.inr (updateDefaultInterface_justified htold)

theorem step_told (h : m.step sdk e = some m') : ∀ entry ∈ m'.told, entry ∈ m.told ∨
    entry.2 = noInterface ∨ ∃ reads ∈ e.reads?, Justified reads sdk entry.2 := by
  intro entry hentry
  have hupdate {n : InterfaceMonitor} {reads : ℕ → Connectivity} {rounds t : ℕ} {network : Option Network}
      (htold : n.told = m.told) (hreads : reads ∈ e.reads?) (h : n.update sdk reads rounds network t = some m') :
      entry ∈ m.told ∨ entry.2 = noInterface ∨ ∃ reads ∈ e.reads?, Justified reads sdk entry.2 :=
    (update_told h entry hentry).imp (fun hold => htold ▸ hold) (Or.imp id fun hjustified => ⟨reads, hreads, hjustified⟩)
  cases e with
  | start listener reads rounds => exact hupdate (n := m.startDefaultInterfaceMonitor listener) rfl rfl h
  | close =>
    cases h
    exact Or.inl hentry
  | changed network reads rounds =>
    obtain ⟨-, -, h⟩ := Option.bind_eq_some_iff.mp h
    exact hupdate rfl rfl h
  | lost network reads rounds =>
    obtain ⟨listener, -, h⟩ := Option.bind_eq_some_iff.mp h
    dsimp only at h
    split_ifs at h
    · cases h
      rcases List.mem_append.mp hentry with hold | hnew
      · exact Or.inl hold
      · rw [List.mem_singleton.mp hnew]
        exact Or.inr (Or.inl rfl)
    · exact hupdate rfl rfl h

/-- However the networks change between the reads: each interface that a listener is told was
read off a network that was an underlying one at a read of the same call. -/
theorem run_told (hrun : run (step sdk) {} events = some m) : ∀ entry ∈ m.told,
    entry.2 = noInterface ∨ ∃ e ∈ events, ∃ reads ∈ e.reads?, Justified reads sdk entry.2 := by
  have hstep : ∀ (m : InterfaceMonitor) e m', (∀ entry ∈ m.told,
      entry.2 = noInterface ∨ ∃ e ∈ events, ∃ reads ∈ e.reads?, Justified reads sdk entry.2) → e ∈ events →
      step sdk m e = some m' → ∀ entry ∈ m'.told,
      entry.2 = noInterface ∨ ∃ e ∈ events, ∃ reads ∈ e.reads?, Justified reads sdk entry.2 := by
    intro m e m' hinv he h entry hentry
    rcases step_told h entry hentry with hold | hnone | hjustified
    · exact hinv entry hold
    · exact Or.inl hnone
    · exact Or.inr ⟨e, he, hjustified⟩
  exact run_invariant_of_guarded hstep (List.forall_mem_nil _) (guarded_of_forall fun _ h => h) hrun

/-- An interface that is only ever that of networks which are not underlying, as the one of the
own tunnel, is never told. -/
theorem never_own_tunnel (tun : String) (htun : tun ≠ "")
    (hvpn : ∀ e ∈ events, ∀ reads ∈ e.reads?, ∀ network t t', (reads t).interfaceName network = some tun →
      (reads t').underlying network = false)
    (hrun : run (step sdk) {} events = some m) : ∀ entry ∈ m.told, entry.2.name ≠ tun := by
  intro entry hentry hname
  rcases run_told hrun entry hentry with hnone | ⟨e, he, reads, hreads, network, t, name, index, c, hread, -, hc, hunderlying, hupdate⟩
  · rw [hnone] at hname
    exact htun hname.symm
  · have htun : name = tun := by rw [hupdate] at hname; exact hname
    have hnetwork := hvpn e he reads hreads network t (t + 2) (htun ▸ (Option.filter_eq_some_iff.mp hread).1)
    rw [Connectivity.underlying, hc, Option.any_some, hunderlying] at hnetwork
    cases hnetwork

/-- A phone on Wi-Fi with the tunnel up, which is the active network then. -/
def phone : Connectivity where
  activeNetwork := some ⟨2⟩
  allNetworks := [⟨2⟩, ⟨1⟩]
  interfaceName network := if network = ⟨2⟩ then some "tun0" else some "wlan0"
  interfaceIndex name := if name = "tun0" then some 9 else some 3
  capabilities network := some (if network = ⟨2⟩ then { notVpn := false, transportVpn := true } else {})

/-- The monitor is started, and then told that the tunnel has changed. -/
def tunnelChanges : List MonitorEvent := [.start 0 (fun _ => phone) 2, .changed ⟨2⟩ (fun _ => phone) 2]

theorem phone_tunnel : ∀ e ∈ tunnelChanges, ∀ reads ∈ e.reads?, ∀ network t t',
    (reads t).interfaceName network = some "tun0" → (reads t').underlying network = false := by
  have hphone : ∀ reads : ℕ → Connectivity, reads = (fun _ => phone) → ∀ network t t',
      (reads t).interfaceName network = some "tun0" → (reads t').underlying network = false := by
    rintro _ rfl network t t' h
    by_cases hnetwork : network = ⟨2⟩
    · rw [hnetwork]
      rfl
    · simp [phone, hnetwork] at h
  intro e he reads hreads
  simp only [tunnelChanges, List.mem_cons, List.not_mem_nil, or_false] at he
  rcases he with rfl | rfl <;> exact hphone reads (Option.some.inj hreads).symm

theorem never_own_tunnel_phone : ∃ m, run (step 34) {} tunnelChanges = some m ∧
    m.told = [(0, ⟨"wlan0", 3, false, false⟩), (0, ⟨"wlan0", 3, false, false⟩)] ∧
    ∀ entry ∈ m.told, entry.2.name ≠ "tun0" := by
  have hrun : run (step 34) {} tunnelChanges =
      some ⟨some 0, some 0, [(0, ⟨"wlan0", 3, false, false⟩), (0, ⟨"wlan0", 3, false, false⟩)]⟩ := rfl
  exact ⟨_, hrun, rfl, never_own_tunnel "tun0" (by decide) phone_tunnel hrun⟩

end InterfaceMonitor

/-! ### While nothing changes -/

namespace Connectivity

variable (now : Connectivity) (sdk : ℕ)

/-- The first underlying network, the active one before the others. -/
def defaultNetwork (excluding : Option Network) : Option Network :=
  (now.activeNetwork.toList ++ now.allNetworks).find? fun network => some network ≠ excluding && now.underlying network

def interface? (network : Network) : Option (String × ℤ) :=
  (nonBlank (now.interfaceName network)).bind fun name => (now.interfaceIndex name).map fun index => (name, index)

/-- The interface of a network that is underlying. -/
def shown (network : Option Network) : InterfaceUpdate :=
  (network.bind fun network => (now.interface? network).bind fun named =>
    ((now.capabilities network).filter (·.isUnderlying)).map fun c => .of sdk named.1 named.2 c).getD noInterface

/-- A network that has an interface without being underlying gives way to the default one. -/
def expected (network : Network) : InterfaceUpdate :=
  if (now.interface? network).isSome && !now.underlying network then now.shown sdk (now.defaultNetwork (some network))
  else now.shown sdk (some network)

variable {now sdk}

theorem firstUnderlying_still (excluding : Option Network) (networks : List Network) (t : ℕ) :
    (firstUnderlying (fun _ => now) excluding networks t).1 =
      networks.find? fun network => some network ≠ excluding && now.underlying network := by
  induction networks generalizing t with
  | nil => rfl
  | cons network networks ih =>
    rw [firstUnderlying, List.find?_cons]
    by_cases hexcluded : some network = excluding
    · simp [hexcluded, ih]
    · cases hunderlying : now.underlying network <;> simp [hexcluded, ih]

theorem defaultUnderlyingNetwork_still (excluding : Option Network) (t : ℕ) :
    (defaultUnderlyingNetwork (fun _ => now) excluding t).1 = now.defaultNetwork excluding := by
  unfold defaultUnderlyingNetwork defaultNetwork
  cases now.activeNetwork with
  | none => exact firstUnderlying_still _ _ _
  | some active =>
    rw [Option.toList_some, List.singleton_append, List.find?_cons]
    by_cases hexcluded : some active = excluding
    · simp [hexcluded, firstUnderlying_still]
    · cases hunderlying : now.underlying active <;> simp [hexcluded, hunderlying, firstUnderlying_still]

theorem underlying_of_default {excluding : Option Network} {network : Network}
    (h : now.defaultNetwork excluding = some network) : now.underlying network = true := by
  have hfound := List.find?_some h
  exact (Bool.and_eq_true_iff.mp hfound).2

/-- Without an interface all attempts fail. -/
theorem attemptInterface_exhausted {network : Network} (h : now.interface? network = none) (left t : ℕ) :
    ∃ t', attemptInterface (fun _ => now) sdk network left t = (.exhausted, t') := by
  induction left generalizing t with
  | zero => exact ⟨t, rfl⟩
  | succ left ih =>
    rw [attemptInterface]
    split
    · exact ih _
    next name hname =>
      split
      · exact ih _
      next index hindex =>
        rw [interface?, hname, Option.bind_some, hindex] at h
        cases h

/-- With an interface the first attempt decides. -/
theorem attemptInterface_decides {network : Network} {named : String × ℤ} (h : now.interface? network = some named)
    (left t : ℕ) : attemptInterface (fun _ => now) sdk network (left + 1) t =
      (((now.capabilities network).filter (·.isUnderlying)).elim .notUnderlying fun c => .found (.of sdk named.1 named.2 c),
        t + 3) := by
  obtain ⟨name, hname, hmap⟩ := Option.bind_eq_some_iff.mp h
  obtain ⟨index, hindex, rfl⟩ := Option.map_eq_some_iff.mp hmap
  rw [attemptInterface, hname]
  dsimp only
  rw [hindex]
  dsimp only
  cases (now.capabilities network).filter (·.isUnderlying) <;> rfl

theorem underlying_eq (network : Network) :
    now.underlying network = ((now.capabilities network).filter (·.isUnderlying)).isSome := by
  unfold underlying
  cases now.capabilities network with
  | none => rfl
  | some c => cases hc : c.isUnderlying <;> simp [hc, Option.filter_some]

/-- A call for no network, or for an underlying one, ends in its first round. -/
theorem updateDefaultInterface_shown {network : Option Network} (h : ∀ n ∈ network, now.underlying n = true)
    (rounds t : ℕ) : ∃ t', updateDefaultInterface (fun _ => now) sdk (rounds + 1) network t =
      some (now.shown sdk network, t') := by
  cases network with
  | none => exact ⟨t, rfl⟩
  | some network =>
    rw [updateDefaultInterface]
    cases hnamed : now.interface? network with
    | none =>
      obtain ⟨t', hattempts⟩ : ∃ t', attemptInterface (fun _ => now) sdk network 10 t = (.exhausted, t') :=
        attemptInterface_exhausted hnamed 10 t
      rw [hattempts]
      exact ⟨t', by simp [shown, hnamed]⟩
    | some named =>
      have hunderlying := underlying_eq network ▸ h network rfl
      obtain ⟨c, hc⟩ := Option.isSome_iff_exists.mp hunderlying
      rw [attemptInterface_decides hnamed 9 t, hc]
      exact ⟨t + 3, by simp [shown, hnamed, hc]⟩

/-- A call ends in its second round at the latest. -/
theorem updateDefaultInterface_still (network : Network) (rounds t : ℕ) :
    ∃ t', updateDefaultInterface (fun _ => now) sdk (rounds + 2) (some network) t =
      some (now.expected sdk network, t') := by
  unfold expected
  cases hunderlying : now.underlying network with
  | true =>
    rw [Bool.not_true, Bool.and_false, if_neg Bool.false_ne_true]
    exact updateDefaultInterface_shown (fun _ h => Option.some.inj h ▸ hunderlying) (rounds + 1) t
  | false =>
    cases hnamed : now.interface? network with
    | none =>
      obtain ⟨t', hattempts⟩ : ∃ t', attemptInterface (fun _ => now) sdk network 10 t = (.exhausted, t') :=
        attemptInterface_exhausted hnamed 10 t
      rw [updateDefaultInterface, hattempts]
      exact ⟨t', by simp [shown, hnamed]⟩
    | some named =>
      have hnone : (now.capabilities network).filter (·.isUnderlying) = none := by
        rw [underlying_eq] at hunderlying
        exact Option.not_isSome_iff_eq_none.mp (by simp [hunderlying])
      rw [updateDefaultInterface, attemptInterface_decides hnamed 9 t, hnone, Option.elim_none]
      dsimp only
      rw [defaultUnderlyingNetwork_still]
      exact updateDefaultInterface_shown (fun _ h => underlying_of_default h) rounds _

end Connectivity

/-- The call reads one and the same thing all the time, and may come to a second round. -/
def MonitorEvent.Still (now : Connectivity) : MonitorEvent → Prop
  | .start _ reads rounds | .changed _ reads rounds | .lost _ reads rounds => reads = (fun _ => now) ∧ 2 ≤ rounds
  | .close => True

namespace InterfaceMonitor

/-- What is told while nothing changes, and to whom. Of a network that is lost and is still
the default one, the listener of the callback is told. -/
def answer (sdk : ℕ) (now : Connectivity) (m : InterfaceMonitor) : MonitorEvent → List (ℕ × InterfaceUpdate)
  | .start listener _ _ => [(listener, now.shown sdk (now.defaultNetwork none))]
  | .close => []
  | .changed network _ _ => m.defaultInterfaceListener.toList.map fun listener => (listener, now.expected sdk network)
  | .lost network _ _ =>
    if now.defaultNetwork none = some network then m.defaultNetworkCallback.toList.map fun listener => (listener, noInterface)
    else m.defaultInterfaceListener.toList.map fun listener => (listener, now.shown sdk (now.defaultNetwork none))

/-- The listeners after the event. -/
def starting (m : InterfaceMonitor) : MonitorEvent → InterfaceMonitor
  | .start listener _ _ => m.startDefaultInterfaceMonitor listener
  | .close => m.closeDefaultInterfaceMonitor
  | .changed _ _ _ | .lost _ _ _ => m

/-- The event as it would be with nothing to read, to wait for or to try again. -/
def settled (sdk : ℕ) (now : Connectivity) (m : InterfaceMonitor) (e : MonitorEvent) : InterfaceMonitor :=
  { m.starting e with told := m.told ++ m.answer sdk now e }

/-- The system only calls a callback that there is. -/
def Called (m : InterfaceMonitor) : MonitorEvent → Prop
  | .changed _ _ _ | .lost _ _ _ => m.defaultNetworkCallback.isSome
  | .start _ _ _ | .close => True

section Still
variable {sdk : ℕ} {now : Connectivity} {m : InterfaceMonitor} {e : MonitorEvent}

theorem update_still {rounds t : ℕ} {network : Option Network} {update : InterfaceUpdate}
    (h : ∃ t', updateDefaultInterface (fun _ => now) sdk rounds network t = some (update, t')) :
    m.update sdk (fun _ => now) rounds network t =
      some { m with told := m.told ++ m.defaultInterfaceListener.toList.map fun listener => (listener, update) } := by
  obtain ⟨t', h⟩ := h
  obtain ⟨_ | listener, callback, told⟩ := m
  · simp [InterfaceMonitor.update]
  · simp [InterfaceMonitor.update, h, tell]

theorem update_default {rounds t : ℕ} {network : Option Network} (hrounds : 2 ≤ rounds)
    (hdefault : network = now.defaultNetwork none) : m.update sdk (fun _ => now) rounds network t =
      some { m with
        told := m.told ++ m.defaultInterfaceListener.toList.map fun listener => (listener, now.shown sdk network) } := by
  obtain ⟨rounds, rfl⟩ := Nat.exists_eq_add_of_le' hrounds
  exact update_still (Connectivity.updateDefaultInterface_shown
    (fun _ h => Connectivity.underlying_of_default (hdefault ▸ h)) (rounds + 1) t)

/-- Every call returns, and does what it would do in one go. -/
theorem step_still (hstill : e.Still now) (hcalled : m.Called e) : m.step sdk e = some (m.settled sdk now e) := by
  cases e with
  | start listener reads rounds =>
    obtain ⟨rfl, hrounds⟩ := hstill
    rw [step, Connectivity.defaultUnderlyingNetwork_still]
    exact update_default hrounds rfl
  | close => exact congrArg some (by simp [settled, starting, answer, closeDefaultInterfaceMonitor])
  | changed network reads rounds =>
    obtain ⟨rfl, hrounds⟩ := hstill
    obtain ⟨rounds, rfl⟩ := Nat.exists_eq_add_of_le' hrounds
    obtain ⟨callback, hcallback⟩ := Option.isSome_iff_exists.mp hcalled
    rw [step, hcallback, Option.bind_some]
    exact update_still (Connectivity.updateDefaultInterface_still network rounds 0)
  | lost network reads rounds =>
    obtain ⟨rfl, hrounds⟩ := hstill
    obtain ⟨callback, hcallback⟩ := Option.isSome_iff_exists.mp hcalled
    rw [step, hcallback, Option.bind_some]
    dsimp only
    rw [Connectivity.defaultUnderlyingNetwork_still, Connectivity.defaultUnderlyingNetwork_still, settled, answer]
    split_ifs
    · rw [hcallback]
      rfl
    · exact update_default hrounds rfl

/-- While nothing changes, a run of calls is the run in which each is done in one go. -/
theorem run_still {events : List MonitorEvent} (hstill : ∀ e ∈ events, e.Still now)
    (hcalled : Guarded (step sdk) Called m events) :
    run (step sdk) m events = some (events.foldl (settled sdk now) m) := by
  induction events generalizing m with
  | nil => rfl
  | cons e events ih =>
    obtain ⟨he, hevents⟩ := List.forall_mem_cons.mp hstill
    have hstep : step sdk m e = some (settled sdk now m e) := step_still he hcalled.1
    rw [run_cons hstep, List.foldl_cons, ih hevents (hcalled.2 _ hstep)]

end Still

theorem run_still_phone : run (step 34) {} tunnelChanges = some (tunnelChanges.foldl (settled 34 phone) {}) := by
  refine run_still ?_ ⟨trivial, fun m h => ⟨?_, fun _ _ => trivial⟩⟩
  · simp [tunnelChanges, MonitorEvent.Still]
  · cases h
    rfl

end InterfaceMonitor

end TauriVpn.Android
