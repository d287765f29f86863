import TauriVpn.Desktop.Start

/-! What a failed start leaves behind: on which exits of `start_desktop` the engine
is as before and every peer connected on the way is closed. -/

namespace TauriVpn.Desktop

open Fallible Olcrtc

section Released
variable (os : DesktopOs) (o : StartOutcomes) (options : ConnectOptions) (host : Host)

/-- The engine is as before, and every peer connected since is closed and its
accept loop has ended. -/
def Released (host host' : Host) : Prop :=
  host'.engine = host.engine ∧
    ∀ peer ∈ host'.peers.drop host.peers.length, peer = { closed := true, accepting := false }

/-- If the call fails it has released everything. -/
def ReleasesOnError : Prop :=
  ∀ error, (exec (startDesktop os o options) host).1 = .error error →
    Released host (exec (startDesktop os o options) host).2

/-- The runtime the profile needs is started, or it needs none. -/
def RuntimeStarts (olc : OlcRtcOutcomes) (profile : VpnProfile) : Prop :=
  profile.protocol ≠ .olcRtc ∨ (PeerConnects olc profile ∧ sendReset olc = .ok ())

/-- The exits of `start_desktop` that keep something. -/
def KeepsSomething : Prop :=
  (∃ warnings, prepare os o = .ok warnings) ∧
    -- the peer is connected, but the reset cannot be sent
    ((PeerConnects o.olcrtc options.profile ∧ ∃ error, sendReset o.olcrtc = .error error) ∨
      RuntimeStarts o.olcrtc options.profile ∧
        -- the core is gone when it is looked up again
        ((PeerConnects o.olcrtc options.profile ∧ ∃ error, o.coreBinaryAgain = .error error) ∨
          (∃ binary, o.coreBinaryAgain = .ok binary) ∧ o.spawn = .ok () ∧
            -- the process was spawned and does not get ready
            (((∃ error, waitForDesktopReadiness o = .error error) ∧
                (PeerConnects o.olcrtc options.profile ∨
                  ¬(os = .windows → ∀ job, o.assignJob = .ok job → host.engine.windowsJob = some job))) ∨
              -- the process has exited, and a job from before is dropped with its own
              ((∃ status, waitForDesktopReadiness o = .ok (some status)) ∧
                ¬(os = .windows → host.engine.windowsJob = none)))))

theorem released_refl : Released host host := ⟨rfl, by simp⟩

section Passed
variable {host} {runtime : Option OlcRtcRuntime} {host' host'' : Host}

/-- A runtime that is only dropped leaves its peer connected. -/
theorem Passed.released_dropRuntime_iff (h : Passed host runtime host')
    (hpeers : host''.peers = (host'.dropRuntime? runtime).peers) :
    Released host host'' ↔ runtime = none ∧ host''.engine = host.engine := by
  unfold Released
  rw [hpeers, and_comm]
  refine and_congr_left fun _ => ?_
  cases h with
  | nothing => simp [Host.dropRuntime?]
  | runtime =>
    rw [Host.dropRuntime?, Host.dropRuntime_addPeer]
    simp [Host.addPeer]

/-- A runtime that is stopped does not. -/
theorem Passed.released_stopRuntime_iff (h : Passed host runtime host')
    (hpeers : host''.peers = (host'.stopRuntime? runtime).peers) :
    Released host host'' ↔ host''.engine = host.engine := by
  unfold Released
  rw [hpeers]
  refine and_iff_left ?_
  cases h with
  | nothing => simp [Host.stopRuntime?]
  | runtime =>
    rw [Host.stopRuntime?, Host.stopRuntime_addPeer]
    simp [Host.addPeer]

theorem Passed.attachJob_engine_eq_iff (h : Passed host runtime host') (os : DesktopOs)
    (job : Except VpnError WindowsJob) :
    (host'.attachJob os job).engine = host.engine ↔
      (os = .windows → ∀ j, job = .ok j → host.engine.windowsJob = some j) := by
  rw [← h.engine_eq, Host.attachJob_engine_eq_iff]

end Passed

theorem launch_releases_iff {warnings : List String} {runtime : Option OlcRtcRuntime} {host' : Host}
    (h : Passed host runtime host') (hprepare : prepare os o = .ok warnings)
    (hstarts : RuntimeStarts o.olcrtc options.profile)
    (hreset : PeerConnects o.olcrtc options.profile → sendReset o.olcrtc = .ok ())
    (hpeer : runtime = none ↔ ¬PeerConnects o.olcrtc options.profile) :
    (∀ error, (exec (launch os o options warnings runtime) host').1 = .error error →
        Released host (exec (launch os o options warnings runtime) host').2) ↔
      ¬KeepsSomething os o options host := by
  have hnoreset : ¬(PeerConnects o.olcrtc options.profile ∧ ∃ error, sendReset o.olcrtc = .error error) := by
    rintro ⟨hp, error, he⟩
    rw [hreset hp] at he
    cases he
  rw [launch_exec]
  unfold KeepsSomething
  cases hbinary : o.coreBinaryAgain with
  | error error =>
    simp [hprepare, hnoreset, hstarts, h.released_dropRuntime_iff, h.engine_eq, hpeer]
  | ok binary =>
    cases hspawn : o.spawn with
    | error error =>
      simp [hprepare, hnoreset, hstarts, h.released_stopRuntime_iff, h.engine_eq]
    | ok _ =>
      cases hready : waitForDesktopReadiness o with
      | error error =>
        have hkept := h.released_dropRuntime_iff
          (Host.dropRuntime?_attachJob_peers host' runtime os o.assignJob)
        rw [hpeer, Host.dropRuntime?_engine, h.attachJob_engine_eq_iff] at hkept
        simp [hprepare, hnoreset, hstarts, hkept]
      | ok status =>
        cases status with
        | none => simp [hnoreset]
        | some status =>
          have hkept : Released host
              (((host'.attachJob os o.assignJob).stopRuntime? runtime).takeWindowsJob os) ↔
                (os = .windows → host.engine.windowsJob = none) := by
            rw [h.released_stopRuntime_iff, ← h.engine_eq, ← Host.takeWindowsJob_engine_eq_iff,
              Host.takeWindowsJob_stopRuntime?_engine, Host.takeWindowsJob_attachJob_engine]
            rw [Host.takeWindowsJob_peers, Host.stopRuntime?_attachJob_peers]
          simp [hprepare, hnoreset, hstarts, hkept]

/-- A failed start releases everything exactly on the exits that are not among those. -/
theorem releasesOnError_iff (hchild : host.engine.child = none) :
    ReleasesOnError os o options host ↔ ¬KeepsSomething os o options host := by
  unfold ReleasesOnError
  cases hprepare : prepare os o with
  | error error =>
    rw [startDesktop_unprepared os o options host hchild hprepare]
    refine iff_of_true (fun _ _ => released_refl host) ?_
    rintro ⟨⟨warnings, h⟩, -⟩
    rw [hprepare] at h
    cases h
  | ok warnings =>
    rw [startDesktop_prepared os o options host hchild hprepare]
    rcases startRuntimeFor_cases host o.olcrtc options.profile with
      ⟨hp, hexec⟩ | ⟨hpeer, hp, error, hexec⟩ | ⟨hpeer, error, hreset, hexec⟩ | ⟨hpeer, hreset, hexec⟩
    · have hpeer : ¬PeerConnects o.olcrtc options.profile := fun h => hp h.1
      rw [exec_bind_ok hexec]
      exact launch_releases_iff os o options host .nothing hprepare (Or.inl hp)
        (fun h => absurd h hpeer) (by simp [hpeer])
    · rw [exec_bind_error hexec]
      refine iff_of_true (fun _ _ => released_refl host) ?_
      rintro ⟨-, ⟨h, -⟩ | ⟨hne | ⟨h, -⟩, -⟩⟩
      · exact hpeer h
      · exact hne hp
      · exact hpeer h
    · rw [exec_bind_error hexec]
      refine iff_of_false (fun h => ?_) fun h => h ⟨⟨warnings, hprepare⟩, Or.inl ⟨hpeer, error, hreset⟩⟩
      have hkept := (h error rfl).2 {} (by simp [Host.addPeer])
      exact absurd hkept (by decide)
    · rw [exec_bind_ok hexec]
      exact launch_releases_iff os o options host .runtime hprepare (Or.inr ⟨hpeer, hreset⟩)
        (fun _ => hreset) (by simp [hpeer])

end Released

/-! ### Two starts -/

/-- A core that cannot be spawned: the runtime is stopped. -/
theorem releasesOnError_spawn :
    ReleasesOnError .linux { sampleOutcomes with spawn := .error "permission denied" } sampleOptions {} := by
  refine (releasesOnError_iff .linux { sampleOutcomes with spawn := .error "permission denied" }
    sampleOptions {} rfl).mpr ?_
  rintro ⟨-, ⟨-, error, h⟩ | ⟨-, ⟨-, error, h⟩ | ⟨-, h, -⟩⟩⟩
  · cases h
  · cases h
  · cases h

/-- A core that does not get ready: its job stays attached and the peer connected, though
the accept loop ends with the dropped runtime. -/
theorem start_keeps_peer_and_job :
    exec (startDesktop .windows sampleOutcomes sampleOptions) {} =
        (.error (.engine "sing-box did not open local proxy ports during startup"),
          { engine := { windowsJob := some ⟨64⟩ }, peers := [{ closed := false, accepting := false }] }) ∧
      ¬ReleasesOnError .windows sampleOutcomes sampleOptions {} := by
  have hexec : exec (startDesktop .windows sampleOutcomes sampleOptions) {} =
      (.error (.engine "sing-box did not open local proxy ports during startup"),
        { engine := { windowsJob := some ⟨64⟩ }, peers := [{ closed := false, accepting := false }] }) :=
    rfl
  refine ⟨hexec, fun h => ?_⟩
  have hreleased := h (.engine "sing-box did not open local proxy ports during startup") (by rw [hexec])
  rw [hexec] at hreleased
  exact absurd hreleased.1 (by decide)

end TauriVpn.Desktop
