import SpeechProbe.Session.Scene

/-!
# Views of the journal

A theorem about a session speaks of one kind of entry at a time: the calls of the
transport, the texts that came in, the payloads that went out, the audio that was
taken from the source.  Each kind is a partial function on entries, and a view keeps
the entries on which it is defined.

Blocks that are pushed and stops that are requested enter the journal whenever time
passes, and the session adds log lines and phases of its own.  A view that is `Blind` to
all of this sees only the dealings with the transport, the listener and the source.
-/

namespace SpeechProbe

/-- A call of the transport and its result, without its time. -/
inductive Exchange where
  | message (message : Outbound) (result : Except Error Unit)
  | audio (payload : Payload) (result : Except Error Unit)
  | receive (timeout : Nanos) (result : Except Error Received)
  | close (result : Except Error Unit)

namespace Entry

/-- The call of the transport in an entry. -/
def exchange? : Entry → Option Exchange
  | sentMessage _ message _ result => some (.message message result)
  | sentAudio _ payload _ result => some (.audio payload result)
  | received _ timeout _ result => some (.receive timeout result)
  | closed _ _ result => some (.close result)
  | _ => none

/-- The text that a receive brought. -/
def text? : Entry → Option String
  | received _ _ _ (.ok (.text text)) => some text
  | _ => none

/-- The payload that was handed to the transport, whatever became of it. -/
def payload? : Entry → Option Payload
  | sentAudio _ payload _ _ => some payload
  | _ => none

/-- The payload that the transport took. -/
def delivered? : Entry → Option Payload
  | sentAudio _ payload _ (.ok ()) => some payload
  | _ => none

/-- The audio that was taken from the source. -/
def chunk? : Entry → Option Chunk
  | fetched _ chunk => some chunk
  | _ => none

/-- The end mark, whether it was taken or not. -/
def endMark? : Entry → Option Unit
  | sentMessage _ .finished _ _ => some ()
  | _ => none

/-- The closing of the transport, whatever it answered. -/
def closing? : Entry → Option Unit
  | closed .. => some ()
  | _ => none

/-- A payload that was not taken, or a receive that failed or found the connection closed. -/
def fault? : Entry → Option Unit
  | sentAudio _ _ _ (.error _) => some ()
  | received _ _ _ (.error _) | received _ _ _ (.ok .closed) => some ()
  | _ => none

/-- Whether the entry is a stop request. -/
def isStop : Entry → Bool
  | stopRequested _ => true
  | _ => false

/-- Whether the entry can be made while the session only waits. -/
def isAmbient : Entry → Bool
  | pushed .. | stopRequested _ => true
  | _ => false

/-- Whether the transport, the listener and the samples of the source have no part in the
entry. -/
def isBackground : Entry → Bool
  | pushed .. | stopRequested _ | noted _ | moved .. | captureStarted | captureStopped => true
  | _ => false

theorem isBackground_of_isAmbient {entry : Entry} (h : entry.isAmbient) :
    entry.isBackground := by
  cases entry <;> simp_all [isAmbient, isBackground]

/-- A partial function on entries that is not defined on the background. -/
class Blind {α : Type} (f : Entry → Option α) : Prop where
  eq_none : ∀ entry, entry.isBackground → f entry = none

instance : Blind exchange? where
  eq_none := by intro entry h; cases entry <;> simp_all [isBackground, exchange?]

instance : Blind text? where
  eq_none := by intro entry h; cases entry <;> simp_all [isBackground, text?]

instance : Blind delivered? where
  eq_none := by intro entry h; cases entry <;> simp_all [isBackground, delivered?]

instance : Blind endMark? where
  eq_none := by intro entry h; cases entry <;> simp_all [isBackground, endMark?]

instance : Blind closing? where
  eq_none := by intro entry h; cases entry <;> simp_all [isBackground, closing?]

instance : Blind fault? where
  eq_none := by intro entry h; cases entry <;> simp_all [isBackground, fault?]

instance : Blind call? where
  eq_none := by intro entry h; cases entry <;> simp_all [isBackground, call?]

/-- Whether the entry is of audio: taken from the source, or handed to the transport. -/
def isAudio : Entry → Bool
  | fetched .. | sentAudio .. => true
  | _ => false

/-- A partial function on entries that is defined on audio at most. -/
class OfAudio {α : Type} (f : Entry → Option α) : Prop where
  eq_none : ∀ entry, entry.isAudio = false → f entry = none

instance {α : Type} (f : Entry → Option α) [OfAudio f] : Blind f where
  eq_none := by
    intro entry h
    apply OfAudio.eq_none
    cases entry <;> simp_all [isBackground, isAudio]

instance : OfAudio payload? where
  eq_none := by intro entry h; cases entry <;> simp_all [isAudio, payload?]

instance : OfAudio chunk? where
  eq_none := by intro entry h; cases entry <;> simp_all [isAudio, chunk?]

theorem filterMap_eq_nil_of_background {α : Type} (f : Entry → Option α) [Blind f]
    {entries : List Entry} (h : ∀ entry ∈ entries, entry.isBackground) :
    entries.filterMap f = [] := by
  rw [List.filterMap_eq_nil_iff]
  intro entry hentry
  exact Blind.eq_none entry (h entry hentry)

/-- A blind function is defined on nothing that happens by itself. -/
theorem filterMap_eq_nil_of_ambient {α : Type} (f : Entry → Option α) [Blind f]
    {entries : List Entry} (h : ∀ entry ∈ entries, entry.isAmbient) :
    entries.filterMap f = [] := by
  apply filterMap_eq_nil_of_background
  intro entry hentry
  exact isBackground_of_isAmbient (h entry hentry)

end Entry

namespace Journal

/-- The calls of the transport, in order. -/
def exchanges (entries : List Entry) : List Exchange := entries.filterMap Entry.exchange?

/-- The texts that came in, in order. -/
def texts (entries : List Entry) : List String := entries.filterMap Entry.text?

/-- The payloads that were handed to the transport, in order. -/
def payloads (entries : List Entry) : List Payload := entries.filterMap Entry.payload?

/-- The payloads that the transport took, in order. -/
def delivered (entries : List Entry) : List Payload := entries.filterMap Entry.delivered?

/-- The audio that was taken from the source, in order. -/
def chunks (entries : List Entry) : List Chunk := entries.filterMap Entry.chunk?

/-- The entries before the end mark. -/
def beforeEnd (entries : List Entry) : List Entry :=
  entries.takeWhile fun entry => (Entry.endMark? entry).isNone

/-- The entries before the transport is closed. -/
def beforeClose (entries : List Entry) : List Entry :=
  entries.takeWhile fun entry => (Entry.closing? entry).isNone

/-- What comes before a mark begins with the entries that hold no such mark. -/
theorem takeWhile_isNone_append {α : Type} {f : Entry → Option α} {entries : List Entry}
    (entries' : List Entry) (h : entries.filterMap f = []) :
    (entries ++ entries').takeWhile (fun entry => (f entry).isNone) =
      entries ++ entries'.takeWhile fun entry => (f entry).isNone := by
  apply List.takeWhile_append_of_pos
  intro entry hentry
  rw [List.filterMap_eq_nil_iff] at h
  rw [h entry hentry]
  rfl

theorem beforeEnd_append {entries : List Entry} (entries' : List Entry)
    (h : entries.filterMap Entry.endMark? = []) :
    beforeEnd (entries ++ entries') = entries ++ beforeEnd entries' :=
  takeWhile_isNone_append entries' h

/-- The entries before the transport is closed, where it is closed once. -/
theorem beforeClose_eq {entries : List Entry} {time elapsed : Nanos} {result : Except Error Unit}
    (rest : List Entry) (h : entries.filterMap Entry.closing? = []) :
    beforeClose (entries ++ .closed time elapsed result :: rest) = entries := by
  rw [beforeClose, takeWhile_isNone_append _ h]
  exact List.append_nil _

end Journal

/-! ## Views of a scene -/

namespace Scene

variable {α : Type}

/-- The entries on which `f` is defined. -/
def view (f : Entry → Option α) (scene : Scene) : List α := scene.entries.filterMap f

@[simp] theorem entries_record (scene : Scene) (entry : Entry) :
    (scene.record entry).entries = scene.entries ++ [entry] := by
  simp [entries, record]

theorem view_of_entries {f : Entry → Option α} {before after : Scene} {entries : List Entry}
    (h : after.entries = before.entries ++ entries) :
    after.view f = before.view f ++ entries.filterMap f := by
  rw [view, view, h, List.filterMap_append]

@[simp] theorem view_record (f : Entry → Option α) (scene : Scene) (entry : Entry) :
    (scene.record entry).view f = scene.view f ++ (f entry).toList := by
  rw [view_of_entries (entries_record scene entry)]
  cases h : f entry <;> simp [h]

/-- A blind view does not see the background. -/
theorem view_record_background (f : Entry → Option α) [Entry.Blind f] (scene : Scene)
    {entry : Entry} (h : entry.isBackground) : (scene.record entry).view f = scene.view f := by
  have hnone : f entry = none := Entry.Blind.eq_none entry h
  rw [view_record, hnone]
  exact List.append_nil _

/-- What a view gains is what it sees of the new entries. -/
theorem filterMap_eq_of_view {f : Entry → Option α} {before after : Scene}
    {entries : List Entry} {seen : List α} (h : after.entries = before.entries ++ entries)
    (hview : after.view f = before.view f ++ seen) : entries.filterMap f = seen := by
  rw [view_of_entries h] at hview
  exact List.append_cancel_left hview

/-- Where a view gains nothing, it sees none of the new entries. -/
theorem filterMap_eq_nil_of_view {f : Entry → Option α} {before after : Scene}
    {entries : List Entry} (h : after.entries = before.entries ++ entries)
    (hview : after.view f = before.view f) : entries.filterMap f = [] :=
  filterMap_eq_of_view h (hview.trans (List.append_nil _).symm)

/-! ## Growth of the journal -/

/-- The journal grew by `entries`, and a stop was requested if they say so. -/
structure Grows (before after : Scene) (entries : List Entry) : Prop where
  entries_eq : after.entries = before.entries ++ entries
  running_eq : after.running = (before.running && !entries.any Entry.isStop)

theorem Grows.refl (scene : Scene) : Grows scene scene [] where
  entries_eq := (List.append_nil _).symm
  running_eq := by simp

theorem Grows.trans {first second third : Scene} {entries entries' : List Entry}
    (h : Grows first second entries) (h' : Grows second third entries') :
    Grows first third (entries ++ entries') where
  entries_eq := by rw [h'.entries_eq, h.entries_eq, List.append_assoc]
  running_eq := by
    rw [h'.running_eq, h.running_eq, List.any_append, Bool.not_or, Bool.and_assoc]

/-- What the journal grew by is known from the journals. -/
theorem Grows.unique {before after : Scene} {entries entries' : List Entry}
    (h : Grows before after entries) (h' : Grows before after entries') : entries = entries' :=
  List.append_cancel_left (h.entries_eq.symm.trans h'.entries_eq)

theorem grows_record (scene : Scene) {entry : Entry} (h : entry.isStop = false) :
    Grows scene (scene.record entry) [entry] where
  entries_eq := entries_record scene entry
  running_eq := by simp [record, h]

/-- A session that stopped has a stop request to show for it. -/
theorem Grows.stop_mem {before after : Scene} {entries : List Entry}
    (h : Grows before after entries) (hbefore : before.running = true)
    (hafter : after.running = false) : ∃ time, .stopRequested time ∈ entries := by
  have hany : entries.any Entry.isStop = true := by
    simpa [hbefore, hafter] using h.running_eq
  obtain ⟨entry, hentry, hstop⟩ := List.any_eq_true.mp hany
  cases entry with
  | stopRequested time => exact ⟨time, hentry⟩
  | _ => simp [Entry.isStop] at hstop

end Scene
end SpeechProbe
