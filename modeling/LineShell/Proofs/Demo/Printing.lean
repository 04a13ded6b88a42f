import LineShell.Demo.Transcript
import LineShell.Proofs.Ring.Queue
import LineShell.Proofs.Shell.Chronicle

/-! What the demonstration prints for a line: the messages that came after the line itself, as far
as they are kept. Where these begin is found by the serial number of the line, even if an older
message looks the same, and also when the line has been evicted or the journal cleared. -/
namespace LineShell

open Logging (onto)

variable {j : Journal} {m : Message} {ms : List Message} {n k : Nat} {es : List LogEvent}

section Position

variable {α β : Type} {p : α → Bool} {a : α} {l : List α}

/-- The position past the first entry with a property, or the first position if there is none. -/
def positionPast (p : α → Bool) (l : List α) : Nat :=
  ((l.findIdx? p).map (· + 1)).getD 0

theorem positionPast_pos (h : p a = true) : positionPast p (a :: l) = 1 := by
  simp [positionPast, List.findIdx?_cons, h]

theorem positionPast_neg (h : p a = false) : positionPast p (a :: l) =
    if positionPast p l = 0 then 0 else positionPast p l + 1 := by
  unfold positionPast
  rw [List.findIdx?_cons, h]
  cases l.findIdx? p <;> rfl

theorem positionPast_map (f : β → α) (l : List β) :
    positionPast p (l.map f) = positionPast (p ∘ f) l := by
  rw [positionPast, positionPast, List.findIdx?_map]

end Position

namespace Journal

/-- A journal has counted the messages that it keeps. -/
def Counted (j : Journal) : Prop := j.ring.size ≤ j.written

theorem counted_empty (capacity : Nat) (h : 0 < capacity) : (empty capacity h).Counted :=
  Nat.zero_le _

theorem counted_clear (j : Journal) : j.clear.Counted := Nat.zero_le _

theorem Counted.write (h : j.Counted) (m : Message) : (j.write m).Counted := by
  have hsize : (j.write m).ring.size = min (j.ring.size + 1) j.ring.capacity :=
    Ring.size_add j.ring m
  unfold Counted at h ⊢
  rw [hsize, written_write]
  omega

theorem Counted.follow (h : j.Counted) (es : List LogEvent) : (j.follow es).Counted := by
  induction es generalizing j with
  | nil => exact h
  | cons e es ih =>
    refine ih (j := e.onJournal j) ?_
    cases e with
    | logged m | recorded m => exact h.write m
    | cleared => exact counted_clear j
    | heeded | restarted | weighed => exact h

theorem written_follow_le (j : Journal) (es : List LogEvent) :
    j.written ≤ (j.follow es).written := by
  induction es generalizing j with
  | nil => exact Nat.le_refl _
  | cons e es ih =>
    refine Nat.le_trans ?_ (ih (e.onJournal j))
    cases e with
    | logged | recorded => exact Nat.le_succ _
    | cleared | heeded | restarted | weighed => exact Nat.le_refl _

/-- Messages with serial numbers from a first one on. -/
def numberFrom (k : Nat) (ms : List Message) : List (Nat × Message) :=
  (ms.zipIdx k).map Prod.swap

theorem numberFrom_cons (k : Nat) (m : Message) (ms : List Message) :
    numberFrom k (m :: ms) = (k, m) :: numberFrom (k + 1) ms := rfl

theorem numberFrom_concat (k : Nat) (ms : List Message) (m : Message) :
    numberFrom k (ms ++ [m]) = numberFrom k ms ++ [(k + ms.length, m)] := by
  simp [numberFrom, List.zipIdx_append]

theorem numberFrom_tail (k : Nat) (ms : List Message) :
    numberFrom (k + 1) ms.tail = (numberFrom k ms).tail := by
  rw [numberFrom, numberFrom, ← List.map_tail, List.tail_zipIdx]

theorem map_snd_numberFrom (k : Nat) (ms : List Message) :
    (numberFrom k ms).map Prod.snd = ms := by
  rw [numberFrom, List.map_map]
  exact List.zipIdx_map_fst k ms

theorem numbered_eq (j : Journal) :
    j.numbered = numberFrom (j.written - j.ring.size) j.messages := by
  have hshift := List.map_snd_add_zipIdx_eq_zipIdx (l := j.messages)
    (n := j.written - j.ring.size) (k := 0)
  rw [Nat.add_zero] at hshift
  rw [numbered, numberFrom, ← hshift, List.map_map]
  exact List.map_congr_left fun x _ => Prod.ext (Nat.add_comm _ _) rfl

theorem map_snd_numbered (j : Journal) : j.numbered.map Prod.snd = j.messages := by
  rw [numbered_eq, map_snd_numberFrom]

theorem length_messages (j : Journal) : j.messages.length = j.ring.size :=
  j.ring.length_toList

/-- A new message comes last under its serial number, and the others keep theirs. -/
theorem numbered_write (h : j.Counted) (m : Message) :
    (j.write m).numbered = Queue.push j.ring.capacity j.numbered (j.written, m) := by
  have hle : j.ring.size ≤ j.ring.capacity := j.ring.size_le
  have hsize : (j.write m).ring.size = min (j.ring.size + 1) j.ring.capacity :=
    Ring.size_add j.ring m
  have hlast : j.written - j.ring.size + j.messages.length = j.written := by
    rw [length_messages, Nat.sub_add_cancel h]
  have hlonger : j.numbered ++ [(j.written, m)] =
      numberFrom (j.written - j.ring.size) (j.messages ++ [m]) := by
    rw [numberFrom_concat, hlast, numbered_eq]
  have hlength : (j.numbered ++ [(j.written, m)]).length = j.ring.size + 1 := by
    rw [hlonger, numberFrom, List.length_map, List.length_zipIdx, List.length_append,
      length_messages, List.length_singleton]
  rw [numbered_eq, messages_write, written_write, hsize, Queue.push, hlength, hlonger]
  unfold Counted at h
  split
  · have hone : j.ring.size + 1 - j.ring.capacity = 1 := by omega
    have hfirst : j.written + 1 - min (j.ring.size + 1) j.ring.capacity =
        j.written - j.ring.size + 1 := by omega
    rw [hone, hfirst, List.drop_one, numberFrom_tail]
  · have hnone : j.ring.size + 1 - j.ring.capacity = 0 := by omega
    have hfirst : j.written + 1 - min (j.ring.size + 1) j.ring.capacity =
        j.written - j.ring.size := by omega
    rw [hnone, hfirst, List.drop_zero]

/-- Serial numbers go on one by one, so the position past one of them can be computed. -/
theorem positionPast_numberFrom (h : n < k + ms.length) :
    positionPast (·.1 = n) (numberFrom k ms) = n + 1 - k := by
  induction ms generalizing k with
  | nil =>
    have hpast : n + 1 ≤ k := h
    rw [Nat.sub_eq_zero_of_le hpast]
    rfl
  | cons m ms ih =>
    rw [List.length_cons] at h
    have hrest := ih (k := k + 1) (by omega)
    rw [numberFrom_cons]
    by_cases hhere : k = n
    · rw [positionPast_pos (by simpa using hhere)]
      omega
    · rw [positionPast_neg (by simpa using hhere), hrest]
      split <;> omega

theorem filter_numberFrom (n k : Nat) (ms : List Message) :
    ((numberFrom k ms).filter (n < ·.1)).map Prod.snd = ms.drop (n + 1 - k) := by
  induction ms generalizing k with
  | nil => simp [numberFrom]
  | cons m ms ih =>
    rw [numberFrom_cons, List.filter_cons]
    split
    · next hnew =>
      have hnone : n + 1 - k = 0 := Nat.sub_eq_zero_of_le (Nat.succ_le_of_lt (by simpa using hnew))
      have hnone' : n + 1 - (k + 1) = 0 := by omega
      rw [List.map_cons, ih, hnone, hnone', List.drop_zero, List.drop_zero]
    · next hold =>
      have hsucc : n + 1 - k = (n + 1 - (k + 1)) + 1 := by
        simp only [decide_eq_true_eq] at hold
        omega
      rw [ih, hsucc, List.drop_succ_cons]

theorem positionAfter_eq (j : Journal) (n : Nat) :
    j.positionAfter n = positionPast (·.1 = n) j.numbered := by
  unfold positionAfter positionPast
  split <;> simp [*]

/-- From the position after a serial number on there are the messages with greater ones, whether the
message of that number is still kept or not. -/
theorem drop_positionAfter (h : j.Counted) (hlt : n < j.written) :
    j.messages.drop (j.positionAfter n) = (j.numbered.filter (n < ·.1)).map Prod.snd := by
  have hlast : n < j.written - j.ring.size + j.messages.length := by
    rwa [length_messages, Nat.sub_add_cancel h]
  rw [positionAfter_eq, numbered_eq, positionPast_numberFrom hlast, filter_numberFrom]

end Journal

/-- Where a message in the journal comes from: it was there before a line, it is the line itself, or
it was added after it. -/
inductive Origin
  | older
  | marker
  | newer
deriving DecidableEq

/-- The messages that a queue keeps after an event, each with its origin. -/
def LogEvent.onQueue (capacity : Nat) (q : List (Origin × Message)) :
    LogEvent → List (Origin × Message)
  | logged m | recorded m => Queue.push capacity q (.newer, m)
  | cleared => []
  | heeded _ | restarted | weighed _ => q

/-- The messages that are kept when a line has been put into a queue behind older ones and events
have followed, each with its origin. -/
def retained (capacity : Nat) (older : List Message) (line : Message) (es : List LogEvent) :
    List (Origin × Message) :=
  es.foldl (LogEvent.onQueue capacity)
    (Queue.push capacity (older.map (Origin.older, ·)) (.marker, line))

/-- The origin that a serial number tells, seen from the serial number of the line. -/
def originOf (serial n : Nat) : Origin :=
  if n < serial then .older else if n = serial then .marker else .newer

theorem originOf_eq_marker (serial n : Nat) : originOf serial n = .marker ↔ n = serial := by
  unfold originOf
  split
  · next hlt => simpa using Nat.ne_of_lt hlt
  · split <;> simp [*]

theorem originOf_eq_newer (serial n : Nat) : originOf serial n = .newer ↔ serial < n := by
  unfold originOf
  split
  · next hlt => simpa using Nat.le_of_lt hlt
  · split <;> simp <;> omega

/-- A numbered message with its origin. -/
def withOrigin (serial : Nat) (e : Nat × Message) : Origin × Message :=
  (originOf serial e.1, e.2)

theorem map_withOrigin_older {serial : Nat} (h : k + ms.length ≤ serial) :
    (Journal.numberFrom k ms).map (withOrigin serial) = ms.map (Origin.older, ·) := by
  induction ms generalizing k with
  | nil => rfl
  | cons m ms ih =>
    rw [List.length_cons] at h
    have holder : withOrigin serial (k, m) = (.older, m) := by
      rw [withOrigin, originOf, if_pos (by omega)]
    rw [Journal.numberFrom_cons, List.map_cons, List.map_cons, ih (by omega), holder]

theorem map_push {α β : Type} (f : α → β) (capacity : Nat) (q : List α) (a : α) :
    (Queue.push capacity q a).map f = Queue.push capacity (q.map f) (f a) := by
  simp only [Queue.push, List.length_append, List.length_map, List.length_singleton]
  split <;> simp

/-- Serial numbers tell the origins of all that is kept, whatever happens to the journal. -/
theorem map_withOrigin_follow {serial : Nat} (h : j.Counted) (hlt : serial < j.written)
    (es : List LogEvent) : (j.follow es).numbered.map (withOrigin serial) =
      es.foldl (LogEvent.onQueue j.ring.capacity) (j.numbered.map (withOrigin serial)) := by
  induction es generalizing j with
  | nil => rfl
  | cons e es ih =>
    have hwrite : ∀ m, ((j.write m).follow es).numbered.map (withOrigin serial) =
        es.foldl (LogEvent.onQueue j.ring.capacity)
          (Queue.push j.ring.capacity (j.numbered.map (withOrigin serial)) (.newer, m)) := by
      intro m
      have hnewer : withOrigin serial (j.written, m) = (.newer, m) := by
        rw [withOrigin, (originOf_eq_newer _ _).mpr hlt]
      have hcapacity : (j.write m).ring.capacity = j.ring.capacity := Ring.capacity_add _ _
      rw [ih (h.write m) (Nat.lt_succ_of_lt hlt), hcapacity, Journal.numbered_write h, map_push,
        hnewer]
    cases e with
    | logged m | recorded m => exact hwrite m
    | cleared =>
      have hnone : j.clear.numbered = [] := by
        rw [Journal.numbered_eq, Journal.messages_clear]
        rfl
      refine (ih j.counted_clear hlt).trans ?_
      rw [hnone]
      rfl
    | heeded | restarted | weighed => exact ih h hlt

/-- What is kept after a line is what a queue keeps. -/
theorem map_withOrigin_retained (h : j.Counted) (line : Message) (es : List LogEvent) :
    ((j.write line).follow es).numbered.map (withOrigin j.written) =
      retained j.ring.capacity j.messages line es := by
  have holder : j.numbered.map (withOrigin j.written) = j.messages.map (Origin.older, ·) := by
    rw [Journal.numbered_eq]
    refine map_withOrigin_older ?_
    rw [Journal.length_messages, Nat.sub_add_cancel h]
  have hline : withOrigin j.written (j.written, line) = (.marker, line) := by
    rw [withOrigin, (originOf_eq_marker _ _).mpr rfl]
  have hcapacity : (j.write line).ring.capacity = j.ring.capacity := Ring.capacity_add _ _
  rw [map_withOrigin_follow (h.write line) (Nat.lt_succ_self _), hcapacity,
    Journal.numbered_write h, map_push, holder, hline]
  rfl

theorem positionPast_withOrigin (j : Journal) (serial : Nat) :
    positionPast (·.1 = .marker) (j.numbered.map (withOrigin serial)) = j.positionAfter serial := by
  rw [positionPast_map, Journal.positionAfter_eq]
  congr 1
  funext e
  simp only [Function.comp_apply, withOrigin, originOf_eq_marker]

theorem filter_withOrigin {serial : Nat} (h : j.Counted) (hlt : serial < j.written) :
    ((j.numbered.map (withOrigin serial)).filter (·.1 = .newer)).map (·.2) =
      j.messages.drop (j.positionAfter serial) := by
  have hnewer : ((·.1 = Origin.newer) : Origin × Message → Bool) ∘ withOrigin serial =
      fun e => decide (serial < e.1) := by
    funext e
    simp only [Function.comp_apply, withOrigin, originOf_eq_newer]
  rw [Journal.drop_positionAfter h hlt, List.filter_map, hnewer, List.map_map]
  rfl

namespace Demo

/-- The message that a line of input is. -/
def marker (line : String) : Message := { text := line, severity := .input }

/-- What is printed are the messages from a position on. -/
theorem runLine_of_dispatch {s next : Shell} {line : String}
    (h : ((onto s (j.write (marker line))).dispatch line).2 = next) :
    runLine (onto s j) line =
      ((next.context.journal.messages.drop (firstNew next j.written)).mapM
        (Message.print look next.colorful next.fancy width)).map
          fun printed => (String.join printed, next) := by
  have hrun : runLine (onto s j) line =
      (next.render look width (firstNew next j.written)).bind fun printed =>
        .ok (printed, next) := by
    rw [← h]
    rfl
  have hpositive : ¬ (firstNew next j.written : Int) < 0 := Int.not_lt.mpr (Int.natCast_nonneg _)
  rw [hrun, Shell.render, Journal.render, if_neg hpositive, Int.toNat_natCast]
  cases (next.context.journal.messages.drop (firstNew next j.written)).mapM
    (Message.print look next.colorful next.fancy width) <;> rfl

/-- The demonstration prints for a line, oldest first, exactly those messages that were added to the
journal after the line and are still kept. It does so for every journal and capacity: the events
that running the line puts to the journal are the same for all. The queue in the statement knows of
each message where it comes from; so no message from before the line is printed, even if it looks
like the line, nor the line itself, and none that was added later is left out, whether the line is
still kept, was evicted or was cleared away. -/
theorem runLine_prints (s : Shell) (line : String) : ∃ es after, ∀ j : Journal, j.Counted →
    ∃ kept next, kept = retained j.ring.capacity j.messages (marker line) es ∧
      next = onto after ((j.write (marker line)).follow es) ∧
      ((onto s (j.write (marker line))).dispatch line).2 = next ∧
      next.context.journal.Counted ∧ next.context.journal.messages = kept.map (·.2) ∧
      firstNew next j.written = positionPast (·.1 = .marker) kept ∧
      next.context.journal.messages.drop (firstNew next j.written) =
        (kept.filter (·.1 = .newer)).map (·.2) ∧
      runLine (onto s j) line = (((kept.filter (·.1 = .newer)).map (·.2)).mapM
        (Message.print look next.colorful next.fancy width)).map
          fun printed => (String.join printed, next) := by
  have htells : Tells (fun _ => True) (·.dispatch line) s :=
    tells_any (tells_dispatcher Shell.depthLimit) line s
  obtain ⟨es, _, honto, _⟩ := htells.events
  refine ⟨es, (s.dispatch line).2, fun j hj => ?_⟩
  let next := onto (s.dispatch line).2 ((j.write (marker line)).follow es)
  have hdispatch : ((onto s (j.write (marker line))).dispatch line).2 = next := by
    rw [honto]
  have horigins : next.context.journal.numbered.map (withOrigin j.written) =
      retained j.ring.capacity j.messages (marker line) es := map_withOrigin_retained hj _ es
  have hcounted : next.context.journal.Counted := (hj.write _).follow es
  have hlt : j.written < next.context.journal.written :=
    (j.write (marker line)).written_follow_le es
  have hdrop : next.context.journal.messages.drop (firstNew next j.written) =
      ((retained j.ring.capacity j.messages (marker line) es).filter (·.1 = .newer)).map (·.2) := by
    rw [← horigins, filter_withOrigin hcounted hlt, firstNew]
  refine ⟨_, next, rfl, rfl, hdispatch, hcounted, ?_, ?_, hdrop, ?_⟩
  · rw [← horigins, List.map_map]
    exact (Journal.map_snd_numbered _).symm
  · rw [← horigins, positionPast_withOrigin, firstNew]
  · rw [← hdrop]
    exact runLine_of_dispatch hdispatch

theorem runLine_prints_echo : ∃ (j : Journal) (next : Shell), j.Counted ∧
    j.messages = [marker "echo hi"] ∧
    ((onto Shell.standard (j.write (marker "echo hi"))).dispatch "echo hi").2 = next ∧
    next.context.journal.messages =
      [marker "echo hi", marker "echo hi", { text := "hi" }] ∧
    runLine (onto Shell.standard j) "echo hi" = ([({ text := "hi" } : Message)].mapM
      (Message.print look next.colorful next.fancy width)).map
        fun printed => (String.join printed, next) := by
  let j := (Journal.empty 3 (by decide)).write (marker "echo hi")
  have hj : j.Counted := (Journal.counted_empty 3 (by decide)).write _
  obtain ⟨es, after, hprints⟩ := runLine_prints Shell.standard "echo hi"
  obtain ⟨kept, next, _, _, hdispatch, _, _, _, hdrop, hrun⟩ := hprints j hj
  have hnext : next.context.journal.messages =
      [marker "echo hi", marker "echo hi", { text := "hi" }] ∧ firstNew next j.written = 2 := by
    rw [← hdispatch]
    decide +kernel
  rw [hnext.1, hnext.2] at hdrop
  rw [← hdrop] at hrun
  exact ⟨j, next, hj, rfl, hdispatch, hnext.1, hrun⟩

end Demo

end LineShell
