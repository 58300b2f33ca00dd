import ReactorNetwork.Machine

/-!
# Channels and their event masks

A channel is a descriptor with the events it is interested in, the events the
last poll reported, and the index its poller assigned. Masks are the 32-bit
`int` of the source with the values of `poll(2)`. Changing the interest is
always followed by an update of the poller; the update itself belongs to the
poller models.

`handleEvent` lists the callbacks one dispatch invokes, in source order. Several
bits can be set at once, and the tests are independent of each other except for
the hang-up branch, which excludes readable data. A callback that was never set
is skipped.
-/

namespace ReactorNetwork

/-- An event mask of a channel, an `int` in the source. -/
abbrev EventMask := BitVec 32

/-- The bits of a mask, as `<sys/poll.h>` defines them. -/
def POLLIN : EventMask := 0x001#32
def POLLPRI : EventMask := 0x002#32
def POLLOUT : EventMask := 0x004#32
def POLLERR : EventMask := 0x008#32
def POLLHUP : EventMask := 0x010#32
def POLLNVAL : EventMask := 0x020#32
def POLLRDHUP : EventMask := 0x2000#32

/-- The source's test of a mask: some bit of `bits` is set. -/
def anySet (mask bits : EventMask) : Bool := mask &&& bits != 0#32

/-- A channel, without its callbacks and its owner. -/
structure Channel where
  fd : Int
  events : EventMask
  revents : EventMask
  index : Int
deriving DecidableEq, Repr

/-- The callbacks a channel may have. -/
inductive Callback where
  | close
  | error
  | read
  | write
deriving DecidableEq, Repr

namespace Channel

/-- The masks of no interest, of reading and of writing. -/
def kNoneEvent : EventMask := 0#32
def kReadEvent : EventMask := POLLIN ||| POLLPRI
def kWriteEvent : EventMask := POLLOUT

/-- The constructor; the poller has not seen the channel. -/
def create (fd : Int) : Channel where
  fd := fd
  events := 0#32
  revents := 0#32
  index := -1

/-- The channel has no interest. -/
def isNoneEvent (c : Channel) : Bool := c.events == kNoneEvent

/-- The channel waits for a writable event. -/
def isWriting (c : Channel) : Bool := anySet c.events kWriteEvent

/-- `enable_reading`, without the update of the poller behind it. -/
def enableReading (c : Channel) : Channel := { c with events := c.events ||| kReadEvent }

/-- `enable_writing`, likewise. -/
def enableWriting (c : Channel) : Channel := { c with events := c.events ||| kWriteEvent }

/-- `disable_writing`, likewise. -/
def disableWriting (c : Channel) : Channel := { c with events := c.events &&& ~~~kWriteEvent }

/-- `disable_all`, likewise. -/
def disableAll (c : Channel) : Channel := { c with events := kNoneEvent }

/-- The callbacks one dispatch invokes for the reported events, in order. -/
def handleEvent (provided : Callback → Bool) (revents : EventMask) : List Callback :=
  ((if anySet revents POLLHUP && !anySet revents POLLIN then [Callback.close] else []) ++
    (if anySet revents (POLLERR ||| POLLNVAL) then [Callback.error] else []) ++
    (if anySet revents (POLLIN ||| POLLPRI ||| POLLRDHUP) then [Callback.read] else []) ++
    (if anySet revents POLLOUT then [Callback.write] else [])).filter provided

/-- Whatever is reported, the callbacks come in one order, each at most once. -/
theorem handleEvent_in_order (provided : Callback → Bool) (revents : EventMask) :
    (handleEvent provided revents).Sublist ([.close, .error, .read, .write].filter provided) := by
  have optional : ∀ (reported : Bool) (callback : Callback),
      (if reported then [callback] else []).Sublist [callback] := by
    intro reported callback
    cases reported
    · exact List.nil_sublist _
    · exact List.Sublist.refl _
  exact ((((optional _ .close).append (optional _ .error)).append (optional _ .read)).append
    (optional _ .write)).filter provided

/-- A mask meets two joined masks exactly when it meets one of them. -/
theorem anySet_or (mask first second : EventMask) :
    anySet mask (first ||| second) = (anySet mask first || anySet mask second) := by
  unfold anySet
  rw [BitVec.and_or_distrib_left]
  generalize mask &&& first = left
  generalize mask &&& second = right
  rw [Bool.eq_iff_iff]
  simp only [bne_iff_ne, ne_eq, BitVec.or_eq_zero_iff, Bool.or_eq_true, not_and_or]

/-- A mask meets a one-bit mask exactly when that bit is set. -/
theorem anySet_twoPow (mask : EventMask) (bit : Nat) (inside : bit < 32) :
    anySet mask (BitVec.twoPow 32 bit) = mask.getLsbD bit := by
  unfold anySet
  rw [BitVec.and_twoPow]
  cases selected : mask.getLsbD bit with
  | false => simp
  | true =>
    have nonzero : BitVec.twoPow 32 bit ≠ 0#32 := by
      intro zero
      have read := congrArg (fun value => value.getLsbD bit) zero
      simp [inside] at read
    simpa using nonzero

/-- The write interest is one bit of the mask. -/
theorem isWriting_bit (c : Channel) : c.isWriting = c.events.getLsbD 2 :=
  anySet_twoPow c.events 2 (by decide)

/-- After `enable_writing` the channel waits for writability. -/
@[simp] theorem isWriting_enableWriting (c : Channel) : c.enableWriting.isWriting = true := by
  simp [isWriting_bit, enableWriting, kWriteEvent, POLLOUT]

/-- After `disable_writing` it does not. -/
@[simp] theorem isWriting_disableWriting (c : Channel) : c.disableWriting.isWriting = false := by
  simp [isWriting_bit, disableWriting, kWriteEvent, POLLOUT]

/-- `enable_reading` leaves the write interest alone. -/
@[simp] theorem isWriting_enableReading (c : Channel) : c.enableReading.isWriting = c.isWriting := by
  simp [isWriting_bit, enableReading, kReadEvent, POLLIN, POLLPRI]

end Channel

end ReactorNetwork
