import Mathlib

namespace SupplyDrop.Mesh

/-- Nanoseconds of the monotonic clock. -/
abbrev Instant := Nat

structure RetryConfig where
  maxAttempts : Nat
  minTimeout : Nat
  maxTimeout : Nat

-- milliseconds from the device, nanoseconds in the configuration
def RetryConfig.ackWait (cfg : RetryConfig) (timeoutMs : Nat) : Nat :=
  max cfg.minTimeout (min (timeoutMs * 1000000) cfg.maxTimeout)

abbrev Prefix := BitVec 48
abbrev Crc := BitVec 32

structure PendingSend where
  -- a serial number for reasoning only: which `SendTxtMsg` frame this record was made with
  id : Nat
  destination : Prefix
  text : String
  txtType : Nat
  attempt : Nat
  sentAt : Instant
  deadline : Instant
deriving DecidableEq

inductive SentOutcome where
  | accepted (destination : Prefix)
  | failed (record : PendingSend)
  | spurious
deriving DecidableEq

structure SendTracker where
  cfg : RetryConfig
  awaitingSent : List PendingSend
  awaitingAck : List (Crc × PendingSend)

structure DueSends where
  toRetry : List PendingSend
  gaveUp : List PendingSend

namespace SendTracker

def new (cfg : RetryConfig) : SendTracker := ⟨cfg, [], []⟩

def retriesEnabled (t : SendTracker) : Bool := 1 < t.cfg.maxAttempts

def record (t : SendTracker) (id : Nat) (destination : Prefix) (text : String)
    (txtType attempt : Nat) (now : Instant) : SendTracker :=
  { t with awaitingSent := t.awaitingSent ++ [⟨id, destination, text, txtType, attempt, now, now⟩] }

/-- `HashMap::insert`: an entry of the same CRC is replaced. -/
def putAck (acks : List (Crc × PendingSend)) (crc : Crc) (rec : PendingSend) :
    List (Crc × PendingSend) :=
  acks.filter (·.1 ≠ crc) ++ [(crc, rec)]

def onSent (t : SendTracker) (crc : Crc) (timeoutMs : Nat) (now : Instant) :
    SentOutcome × SendTracker :=
  match t.awaitingSent with
  | [] => (.spurious, t)
  | rec :: rest =>
      if crc = 0 then (.failed rec, { t with awaitingSent := rest })
      else
        let waiting := { rec with deadline := now + t.cfg.ackWait timeoutMs }
        (.accepted rec.destination,
          { t with awaitingSent := rest, awaitingAck := putAck t.awaitingAck crc waiting })

def onConfirmed (t : SendTracker) (crc : Crc) : Option PendingSend × SendTracker :=
  ((t.awaitingAck.find? (·.1 = crc)).map (·.2),
    { t with awaitingAck := t.awaitingAck.filter (·.1 ≠ crc) })

def due (t : SendTracker) (now : Instant) : List PendingSend :=
  (t.awaitingAck.filter fun r => r.2.deadline ≤ now).map (·.2)

def collectDue (t : SendTracker) (now : Instant) : DueSends × SendTracker :=
  ({ toRetry := (t.due now).filter fun r => r.attempt < t.cfg.maxAttempts
     gaveUp := (t.due now).filter fun r => ¬ r.attempt < t.cfg.maxAttempts },
    { t with awaitingAck := t.awaitingAck.filter fun r => ¬ r.2.deadline ≤ now })

end SendTracker
end SupplyDrop.Mesh
