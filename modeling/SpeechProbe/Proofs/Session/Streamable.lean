import SpeechProbe.Proofs.Sample.Lengths
import SpeechProbe.Proofs.Session.Termination
import SpeechProbe.Proofs.Settings.Acceptance

/-!
# Settings that audio can be streamed with

Settings are accepted if neither the sample rate nor the chunk duration is zero.  What streaming
asks for is that a chunk holds a sample, and that depends on the product of the two: it is so from
half a sample on (`Framing.one_le_chunkLength_iff`).  So settings can be accepted with which no
audio is ever sent: the session looks at the length of its chunks only when it is to stream, after
the peer was told that audio will come.

With all other accepted settings a signal at their own rate is sent to its last sample, if nothing
goes wrong with the transport (`Settings.canStream_iff`).
-/

namespace SpeechProbe

/-- A session that is answered `ready`, and after that goes on undisturbed: up to the end mark the
transport takes every payload and every receive brings a text frame or nothing, no stop comes
before the samples are used up, and the allowance lasts for the session, or for its samples and
the text frames that are drained. -/
structure Session.Undisturbed {σ : Type} (transport : Transport σ) (fuel : Nat)
    (samples : List Sample) (session opened : Session σ) (entries : List Entry) : Prop where
  running : session.running = true
  ready : session.configure transport = (.ok .ready, opened)
  entries_eq : (session.runCourse transport fuel).session.scene.entries =
    session.scene.entries ++ entries
  calm : Journal.Calm entries
  unstopped : Journal.StopsAfter samples entries
  enough : (session.runCourse transport fuel).outcome ≠ .error .outOfSteps ∨
    samples.length + (Journal.texts (Journal.beforeEnd entries)).length < fuel

/-- What a run has to show for that. -/
theorem Session.Undisturbed.of_run {σ : Type} {transport : Transport σ} {fuel : Nat}
    {samples : List Sample} {session : Session σ} (hnew : session.scene.entries = [])
    (hrunning : session.running = true) (hready : (session.configure transport).1 = .ok .ready)
    (hcalm : Journal.Calm (session.runCourse transport fuel).session.scene.entries)
    (hstops : (session.runCourse transport fuel).session.scene.entries.any Entry.isStop = false)
    (hreturns : (session.runCourse transport fuel).outcome.toBool = true) :
    session.Undisturbed transport fuel samples (session.configure transport).2
      (session.runCourse transport fuel).session.scene.entries where
  running := hrunning
  ready := Prod.ext hready rfl
  entries_eq := by rw [hnew, List.nil_append]
  calm := hcalm
  unstopped := Journal.stopsAfter_of_any hstops samples
  enough := .inl (Except.ne_error_of_toBool hreturns _)

namespace Settings

variable {σ : Type} {settings : Settings} {transport : Transport σ} {sessionId : String}
  {samples : List Sample} {scene : Scene} {peer : σ} {fuel : Nat}

/-- How a signal at the settings' own rate is cut. -/
def framing (settings : Settings) : Framing :=
  ⟨settings.audio.streamChunkMs, settings.audio.sampleRate⟩

/-- A session over a signal at the settings' own rate. -/
def signalSession (settings : Settings) (sessionId : String) (samples : List Sample)
    (scene : Scene) (peer : σ) : Session σ :=
  .start (settings.plan sessionId settings.audio.streamChunkMs)
    { scene with source := .synthetic (.ofSamples samples settings.audio.sampleRate) } peer

/-- A chunk holds a sample, and whatever the signal is and over whatever transport it is sent,
streaming ends well and every sample is handed over in an undisturbed session. -/
structure CanStream (settings : Settings) : Prop where
  one_le_chunkLength : 1 ≤ settings.framing.chunkLength
  streams : ∀ {σ : Type} (transport : Transport σ) (sessionId : String) (samples : List Sample)
    (scene : Scene) (peer : σ) (fuel : Nat) (opened : Session σ) (entries : List Entry),
    samples.length ≤ Cursor.capacity →
    (settings.signalSession sessionId samples scene peer).Undisturbed transport fuel samples
      opened entries →
    (opened.streamCourse transport fuel).outcome = .ok (.ok ()) ∧
      (Journal.payloads entries).flatMap Payload.decode = samples

theorem check_signalSession (h : settings.Usable) :
    (settings.signalSession sessionId samples scene peer).plan.check = .ok () := by
  rw [SessionPlan.check, if_neg]
  exact h.streamChunkMs

/-- Where a chunk holds a sample, all of them are sent. -/
theorem CanStream.of_chunkLength (h : settings.Usable) (hn : 1 ≤ settings.framing.chunkLength) :
    settings.CanStream where
  one_le_chunkLength := hn
  streams := by
    intro σ transport sessionId samples scene peer fuel opened entries hsamples hsession
    obtain ⟨entries', hgrows⟩ := (Session.runs_runCourse transport fuel
      (settings.signalSession sessionId samples scene peer)).grows
    obtain rfl : entries' = entries :=
      List.append_cancel_left (hgrows.entries_eq.symm.trans hsession.entries_eq)
    obtain ⟨houtcome, hpayloads⟩ := Session.streamed_of_calm hgrows rfl hn hsamples
      (check_signalSession h) hsession.ready hsession.running hsession.unstopped hsession.calm
      hsession.enough
    obtain ⟨payloads, hframed, -, -, -, hdecoded⟩ :=
      settings.framing.payloads_spec samples hn hsamples
    obtain rfl : payloads = Journal.payloads entries' :=
      Except.ok.inj (hframed.symm.trans hpayloads)
    exact ⟨houtcome, hdecoded⟩

/-- Where it holds none, the settings say so when the session is to stream. -/
theorem streamCourse_of_chunkLength (hn : settings.framing.chunkLength = 0)
    {handshake : Handshake} {opened : Session σ}
    (hconfigure : (settings.signalSession sessionId samples scene peer).configure transport =
      (.ok handshake, opened)) :
    (opened.streamCourse transport fuel).outcome = .ok (.error (.setting "chunk_duration_ms"
      (settings.audio.streamChunkMs.toNat.repr ++ "ms at " ++
        settings.audio.sampleRate.toNat.repr ++ "Hz yields empty chunks"))) := by
  have hopens := Session.opens_configure transport
    (settings.signalSession sessionId samples scene peer)
  rw [hconfigure] at hopens
  have hcursor : opened.scene.source.cursor? =
      some (.ofSamples samples settings.audio.sampleRate) :=
    (Session.steady_mute.opens hopens).cursor_eq
  -- The handshake changes neither the plan nor the source.
  have hframing : opened.plan.framing opened.scene.source.rate = settings.framing := by
    rw [Source.rate_of_cursor? hcursor, hopens.plan_eq]
    rfl
  simp only [Session.streamCourse, Session.plan_moveTo, Session.source_moveTo, hframing, hn,
    if_true]
  rfl

/-- Accepted settings are such that audio can be streamed with them exactly if a chunk lasts as
long as half a sample: the product of samples per second and milliseconds is 500 at least.

With all others, every session over a signal at their own rate that gets past the handshake fails
to stream because chunks are empty, whatever the transport does.  No audio is handed over, and the
session itself does not fail. -/
theorem canStream_iff (settings : Settings) (h : settings.check = .ok ()) :
    (settings.CanStream ↔
      500 ≤ settings.audio.sampleRate.toNat * settings.audio.streamChunkMs.toNat) ∧
    (¬ settings.CanStream → ∀ {σ : Type} (transport : Transport σ) (sessionId : String)
      (samples : List Sample) (scene : Scene) (peer : σ) (fuel : Nat) (handshake : Handshake)
      (opened : Session σ) (entries : List Entry),
      (settings.signalSession sessionId samples scene peer).configure transport =
        (.ok handshake, opened) →
      ((settings.signalSession sessionId samples scene peer).runCourse
        transport fuel).session.scene.entries = scene.entries ++ entries →
      (opened.streamCourse transport fuel).outcome = .ok (.error (.setting "chunk_duration_ms"
        (settings.audio.streamChunkMs.toNat.repr ++ "ms at " ++
          settings.audio.sampleRate.toNat.repr ++ "Hz yields empty chunks"))) ∧
      Journal.payloads entries = [] ∧
      ∀ e, ((settings.signalSession sessionId samples scene peer).runCourse
        transport fuel).outcome ≠ .ok (.error e)) := by
  have husable := check_eq_ok.mp h
  have hlength : settings.CanStream ↔ 1 ≤ settings.framing.chunkLength :=
    ⟨CanStream.one_le_chunkLength, .of_chunkLength husable⟩
  refine ⟨hlength.trans Framing.one_le_chunkLength_iff, fun hnot => ?_⟩
  have hn : settings.framing.chunkLength = 0 := by
    rw [hlength] at hnot
    omega
  intro σ transport sessionId samples scene peer fuel handshake opened entries hconfigure hentries
  have hcursor : (settings.signalSession sessionId samples scene peer).scene.source.cursor? =
      some (.ofSamples samples settings.audio.sampleRate) := rfl
  have hmute := (Session.runs_runCourse transport fuel _).mute_of_unstreamable hcursor hn
  exact ⟨streamCourse_of_chunkLength hn hconfigure,
    Scene.filterMap_eq_nil_of_view hentries (hmute.view_eq Entry.payload?),
    Session.runCourse_ne_error fuel (check_signalSession husable) hconfigure⟩

end Settings

/-! ## Either side of half a sample -/

/-- A peer that is ready and says nothing more. -/
def Script.obliging : Script := { Script.talkative with onEnd := [], afterChunk := [] }

namespace Settings

/-- The standard settings, with chunks of 100 ms, at another sample rate. -/
def atRate (rate : UInt32) : Settings :=
  { standard with audio := { standard.audio with sampleRate := rate } }

/-- A session over one sample of silence, with an obliging peer. -/
def terseSession (rate : UInt32) : Session Rehearsal :=
  (atRate rate).signalSession "terse" [Single.zero] .twoChunks (.ofScript .obliging)

/-- At five samples per second a chunk lasts as long as half a sample, and the sample is sent. -/
theorem canStream_iff_five :
    (atRate 5).check = .ok () ∧ (atRate 5).CanStream ∧
      ∃ opened entries,
        (terseSession 5).Undisturbed Rehearsal.transport 40 [Single.zero] opened entries ∧
          (Journal.payloads entries).flatMap Payload.decode = [Single.zero] := by
  have haccepted : (atRate 5).check = .ok () := by decide +kernel
  have hstream := (canStream_iff (atRate 5) haccepted).1.mpr (by decide)
  have hsession : (terseSession 5).Undisturbed Rehearsal.transport 40 [Single.zero] _ _ :=
    .of_run rfl rfl (by decide +kernel) (by decide +kernel) (by decide +kernel) (by decide +kernel)
  exact ⟨haccepted, hstream, _, _, hsession,
    (hstream.streams _ _ _ _ _ _ _ _ (by decide) hsession).2⟩

/-- At four samples per second a chunk is shorter, and of a quarter of a second of silence nothing
is sent, although the settings are accepted and nothing goes wrong otherwise. -/
theorem not_canStream_four :
    ((atRate 4).check = .ok () ∧ (atRate 4).framing.chunkLength = 0 ∧
      (SignalSpec.ofKind .silence (Double.ofRat (1 / 4))).render 4 0 = .ok [Single.zero] ∧
      ∃ opened entries,
        (terseSession 4).Undisturbed Rehearsal.transport 40 [Single.zero] opened entries ∧
          Journal.payloads entries = [] ∧
          (opened.streamCourse Rehearsal.transport 40).outcome = .ok (.error
            (.setting "chunk_duration_ms" "100ms at 4Hz yields empty chunks"))) ∧
      ¬ ∀ settings : Settings, settings.check = .ok () → settings.CanStream := by
  have haccepted : (atRate 4).check = .ok () := by decide +kernel
  have hlength : (atRate 4).framing.chunkLength = 0 := by decide +kernel
  have hsession : (terseSession 4).Undisturbed Rehearsal.transport 40 [Single.zero] _ _ :=
    .of_run rfl rfl (by decide +kernel) (by decide +kernel) (by decide +kernel) (by decide +kernel)
  refine ⟨⟨haccepted, hlength, by decide +kernel, _, _, hsession, by decide +kernel,
    by decide +kernel⟩, fun hall => ?_⟩
  have hlong := (hall (atRate 4) haccepted).one_le_chunkLength
  omega

end Settings
end SpeechProbe
