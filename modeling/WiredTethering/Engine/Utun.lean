import WiredTethering.Memory.Bytes

/-!
# The datagrams of the tunnel

`utun_if.c`: every datagram of the control socket has its address family in front, in four
bytes.  `at_utun_read` takes the family off, `at_utun_write` puts it on.  What does not fit
its buffers is dropped or refused, never cut.
-/

namespace WiredTethering.Engine

open WiredTethering.Memory

def afInet : UInt32 := 2
def afInet6 : UInt32 := 30

/-- The buffer of `at_utun_read`. -/
def utunReadBuf : Nat := 4096

/-- The buffer of `at_utun_write`. -/
def utunWriteBuf : Nat := 2048

/-- The four big-endian bytes of a 32-bit word. -/
def be32 (word : UInt32) : Bytes :=
  [(word >>> 24).toUInt8, (word >>> 16).toUInt8, (word >>> 8).toUInt8, word.toUInt8]

/-- What `poll` and `read` find at the socket.  A `read` takes a whole datagram off, and
copies of it what the buffer holds. -/
inductive UtunInput
  | quiet
  /-- `read` fails; `again` says whether with `EAGAIN`. -/
  | failed (again : Bool)
  | datagram (bytes : Bytes)
deriving DecidableEq, Repr

/-- What `at_utun_read` returns, and what it leaves in `*len`, in `*family` and at `ip`. -/
structure UtunReturn where
  rc : Int
  len : Nat
  family : UInt32
  ip : Bytes
deriving DecidableEq, Repr

/-- `AT_UTUN_READ_DROP`. -/
def utunReadDrop : Int := -2

/-- `at_utun_read_is_drop`. -/
def atUtunReadIsDrop (n : Int) (bufsz cap : Nat) : Bool :=
  if n < 5 then false
  else if bufsz = 0 ∨ n = bufsz then true
  else cap < n.toNat - 4

/-- `at_utun_read` into a buffer of `cap` bytes; `len` and `family` are the values that the
caller has there. -/
def atUtunRead (input : UtunInput) (cap len : Nat) (family : UInt32) : UtunReturn :=
  match input with
  | .quiet => ⟨1, len, family, []⟩
  | .failed again => ⟨if again then 1 else -1, len, family, []⟩
  | .datagram bytes =>
      let buf := bytes.take utunReadBuf
      let n := buf.length
      if n < 5 then ⟨1, len, family, []⟩
      else if atUtunReadIsDrop n utunReadBuf cap then ⟨utunReadDrop, 0, family, []⟩
      else ⟨0, n - 4, rd32be buf 0, buf.drop 4⟩

/-- `at_utun_write`: what it returns, and the datagram that it hands to `write`, of which
`written` is the result. -/
def atUtunWrite (ip : Bytes) (family : UInt32) (written : Int) : Int × Option Bytes :=
  if ip.length = 0 then (-1, none)
  else if utunWriteBuf < ip.length + 4 then (-1, none)
  else
    let buf := be32 family ++ ip
    (if written = buf.length then 0 else -1, some buf)

@[simp]
theorem be32_length (word : UInt32) : (be32 word).length = 4 :=
  rfl

variable {cap len : Nat} {family : UInt32}

/-- A datagram is delivered whole, dropped because it is too long, or too short to be one. -/
theorem atUtunRead_datagram (small : cap < utunReadBuf - 4) (bytes : Bytes) :
    atUtunRead (.datagram bytes) cap len family =
      if bytes.length < 5 then ⟨1, len, family, []⟩
      else if cap + 4 < bytes.length then ⟨utunReadDrop, 0, family, []⟩
      else ⟨0, bytes.length - 4, rd32be bytes 0, bytes.drop 4⟩ := by
  simp only [utunReadBuf] at small
  rw [atUtunRead]
  by_cases fits : bytes.length ≤ utunReadBuf
  · rw [List.take_of_length_le fits]
    simp only [utunReadBuf] at fits
    by_cases short : bytes.length < 5
    · rw [if_pos short, if_pos short]
    · have drop : atUtunReadIsDrop bytes.length utunReadBuf cap =
          decide (cap + 4 < bytes.length) := by
        simp only [atUtunReadIsDrop, utunReadBuf]
        split_ifs with few full
        · exact absurd few (by omega)
        · rw [eq_comm, decide_eq_true_iff]
          rcases full with empty | full
          · exact empty.elim
          · omega
        · rw [decide_eq_decide]
          omega
      rw [if_neg short, if_neg short, drop]
      simp only [decide_eq_true_eq]
  · have long : utunReadBuf < bytes.length := Nat.lt_of_not_le fits
    have cut : (bytes.take utunReadBuf).length = utunReadBuf := List.length_take_of_le long.le
    have drop : atUtunReadIsDrop (utunReadBuf : Nat) utunReadBuf cap = true := rfl
    simp only [utunReadBuf] at long
    rw [cut, if_neg (by decide), drop, if_pos rfl, if_neg (by omega), if_pos (by omega)]

end WiredTethering.Engine
