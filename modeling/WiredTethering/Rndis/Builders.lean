import WiredTethering.Rndis.Control

/-!
# The bounds of the control builders

`rndis_build_query` and `rndis_build_set` check the buffer against a total that is a
32-bit sum.  Below the wrap of that sum they keep to the buffer and describe their
payload; behind it the check is against the wrapped total, and the stores go past it.
-/

namespace WiredTethering.Rndis

open WiredTethering.Memory

/-! ## Words behind a sequence of stores -/

theorem storeAll_append (front behind : List (Nat × Bytes)) (buf : Bytes) :
    storeAll (front ++ behind) buf = storeAll behind (storeAll front buf) :=
  List.foldl_append

theorem storeAll_length {stores : List (Nat × Bytes)} {buf : Bytes}
    (inside : ∀ store ∈ stores, store.1 + store.2.length ≤ buf.length) :
    (storeAll stores buf).length = buf.length := by
  induction stores generalizing buf with
  | nil => rfl
  | cons store stores ih =>
      rw [List.forall_mem_cons] at inside
      have kept := overwrite_length inside.1
      have later := @ih (overwrite buf store.1 store.2) (by
        rw [kept]
        exact inside.2)
      exact later.trans kept

/-- A word reads back if the stores behind it begin behind it. -/
theorem rd32le_storeAll_word {stores front behind : List (Nat × Bytes)} {buf : Bytes} {i : Nat}
    {word : UInt32} (split : stores = front ++ (i, le32 word) :: behind)
    (inside : ∀ store ∈ stores, store.1 + store.2.length ≤ buf.length)
    (later : ∀ store ∈ behind, i + 4 ≤ store.1) : rd32le (storeAll stores buf) i = word := by
  rw [split, List.forall_mem_append, List.forall_mem_cons] at inside
  rcases inside with ⟨insideFront, here, insideBehind⟩
  have length := storeAll_length insideFront
  have within : i + 4 ≤ (storeAll front buf).length := by
    rw [length]
    exact here
  rw [split, storeAll_append]
  calc
    rd32le (storeAll behind (overwrite (storeAll front buf) i (le32 word))) i =
        rd32le (overwrite (storeAll front buf) i (le32 word)) i := by
      apply rd32le_storeAll
      intro store mem
      rw [overwrite_length within, length]
      exact ⟨later store mem, insideBehind store mem⟩
    _ = word := rd32le_wr32le word within

theorem slice_overwrite {buf src : Bytes} {off : Nat} (inside : off + src.length ≤ buf.length) :
    slice (overwrite buf off src) off src.length = src := by
  have front : (buf.take off).length = off := by
    rw [List.length_take]
    omega
  have read := slice_length_add (buf.take off) (src ++ buf.drop (off + src.length)) 0 src.length
  rw [Nat.add_zero, front] at read
  rw [overwrite, List.append_assoc, read, slice_append_exact]

/-! ## What a builder owes its caller -/

/-- A request of `len` payload bytes stands in the buffer. -/
structure Built.Carries (b : Built) (buf : Bytes) (len : UInt32) (payload : Option Bytes) :
    Prop where
  total : b.len = 28 + len.toNat
  fits : b.len ≤ buf.length
  inside : ∀ store ∈ b.stores, store.1 + store.2.length ≤ b.len
  messageLength : (rd32le (storeAll b.stores buf) 4).toNat = b.len
  informationLength : rd32le (storeAll b.stores buf) 16 = len
  informationOffset : len ≠ 0 → offsetBase + (rd32le (storeAll b.stores buf) 20).toNat = 28
  /-- The payload is what the length names of the bytes behind the argument. -/
  copied : ∀ bytes ∈ payload,
    slice (storeAll b.stores buf) 28 (bytes.take len.toNat).length = bytes.take len.toNat

/-- The builder has refused and written nothing, or has built its request. -/
def Built.Sound (b : Built) (buf : Bytes) (len : UInt32) (payload : Option Bytes) : Prop :=
  b = .refused ∨ b.Carries buf len payload

/-- The total does not wrap, or the buffer is too short for the wrapped total as well. -/
def TotalChecked (bufLen : Nat) (len : UInt32) : Prop :=
  28 + len.toNat < 2 ^ 32 ∨ bufLen < 28 + len.toNat - 2 ^ 32

/-! ## The two builders -/

theorem request_total (len : UInt32) :
    (querySetHdrLen + len).toNat = (28 + len.toNat) % 2 ^ 32 :=
  UInt32.toNat_add _ _

/-- The stores of a request in front of its payload. -/
def requestHeader (type : UInt32) (total : Nat) (requestId oid len offset : UInt32) :
    List (Nat × Bytes) :=
  header type total requestId ++ [(12, le32 oid), (16, le32 len), (20, le32 offset), (24, le32 0)]

theorem requestHeader_inside (type requestId oid len offset : UInt32) {total : Nat}
    (long : 28 ≤ total) :
    ∀ store ∈ requestHeader type total requestId oid len offset,
      store.1 + store.2.length ≤ total := by
  simp only [requestHeader, header, List.cons_append, List.nil_append, List.forall_mem_cons,
    List.not_mem_nil, IsEmpty.forall_iff, implies_true, le32_length, zeros_length, and_true]
  omega

/-- A request carries its payload if its total is the exact one. -/
theorem request_carries {type requestId oid len offset : UInt32} {total : Nat} {buf : Bytes}
    {payload : Option Bytes} {copies : List (Nat × Bytes)}
    (exact : total = 28 + len.toNat) (small : total < 2 ^ 32) (fits : total ≤ buf.length)
    (offsetSet : len ≠ 0 → offset = 20)
    (copiesInside : ∀ store ∈ copies, store.1 = 28 ∧ 28 + store.2.length ≤ total)
    (copied : ∀ bytes ∈ payload, bytes.take len.toNat ≠ [] →
      copies = [(28, bytes.take len.toNat)]) :
    Built.Carries ⟨requestHeader type total requestId oid len offset ++ copies, total⟩ buf len
      payload := by
  have long : 28 ≤ total := by omega
  have inside : ∀ store ∈ requestHeader type total requestId oid len offset ++ copies,
      store.1 + store.2.length ≤ total := by
    rw [List.forall_mem_append]
    constructor
    · exact requestHeader_inside type requestId oid len offset long
    · intro store mem
      rw [(copiesInside store mem).1]
      exact (copiesInside store mem).2
  have within : ∀ store ∈ requestHeader type total requestId oid len offset ++ copies,
      store.1 + store.2.length ≤ buf.length :=
    fun store mem => Nat.le_trans (inside store mem) fits
  have read {i : Nat} {word : UInt32} {front behind : List (Nat × Bytes)}
      (split : requestHeader type total requestId oid len offset =
        front ++ (i, le32 word) :: behind) (early : i + 4 ≤ 28)
      (later : ∀ store ∈ behind, i + 4 ≤ store.1) :
      rd32le (storeAll (requestHeader type total requestId oid len offset ++ copies) buf) i =
        word := by
    have whole : requestHeader type total requestId oid len offset ++ copies =
        front ++ (i, le32 word) :: (behind ++ copies) := by
      rw [split, List.append_assoc, List.cons_append]
    apply rd32le_storeAll_word whole within
    rw [List.forall_mem_append]
    constructor
    · exact later
    · intro store mem
      rw [(copiesInside store mem).1]
      exact early
  refine ⟨exact, fits, inside, ?_, ?_, ?_, ?_⟩
  · have split : requestHeader type total requestId oid len offset =
        [(0, zeros total), (0, le32 type)] ++ (4, le32 (UInt32.ofNat total)) ::
          [(8, le32 requestId), (12, le32 oid), (16, le32 len), (20, le32 offset),
            (24, le32 0)] := rfl
    rw [read split (by decide) (by simp)]
    exact Nat.mod_eq_of_lt small
  · have split : requestHeader type total requestId oid len offset =
        header type total requestId ++ [(12, le32 oid)] ++ (16, le32 len) ::
          [(20, le32 offset), (24, le32 0)] := rfl
    exact read split (by decide) (by simp)
  · intro nonempty
    have split : requestHeader type total requestId oid len offset =
        header type total requestId ++ [(12, le32 oid), (16, le32 len)] ++ (20, le32 offset) ::
          [(24, le32 0)] := rfl
    rw [read split (by decide) (by simp), offsetSet nonempty]
    rfl
  · intro bytes mem
    by_cases empty : bytes.take len.toNat = []
    · rw [empty]
      rfl
    · have last := copied bytes mem empty
      have room := (copiesInside (28, bytes.take len.toNat) (by simp [last])).2
      have length := storeAll_length fun store mem =>
        within store (List.mem_append_left copies mem)
      rw [last, storeAll_append]
      apply slice_overwrite
      rw [length]
      exact Nat.le_trans room fits

/-- Either builder: it checks the buffer against the 32-bit total and stores a request. -/
theorem request_sound_iff {type requestId oid len offset : UInt32} {buf : Bytes}
    {payload : Option Bytes} {copies : List (Nat × Bytes)} {b : Built}
    (built : b = if buf.length < (querySetHdrLen + len).toNat then .refused else
      ⟨requestHeader type (querySetHdrLen + len).toNat requestId oid len offset ++ copies,
        (querySetHdrLen + len).toNat⟩)
    (offsetSet : len ≠ 0 → offset = 20)
    (copiesInside : ∀ store ∈ copies, store.1 = 28 ∧ store.2.length ≤ len.toNat)
    (copied : ∀ bytes ∈ payload, bytes.take len.toNat ≠ [] →
      copies = [(28, bytes.take len.toNat)]) :
    b.Sound buf len payload ↔ TotalChecked buf.length len := by
  have bound : len.toNat < 2 ^ 32 := len.toNat_lt
  rw [built, request_total]
  constructor
  · intro sound
    by_cases small : 28 + len.toNat < 2 ^ 32
    · exact .inl small
    · right
      by_cases short : buf.length < (28 + len.toNat) % 2 ^ 32
      · omega
      · rw [if_neg short] at sound
        rcases sound with refused | carries
        · cases congrArg Built.stores refused
        · have total : (28 + len.toNat) % 2 ^ 32 = 28 + len.toNat := carries.total
          omega
  · rintro (small | short)
    · rw [Nat.mod_eq_of_lt small]
      split_ifs with short
      · exact .inl rfl
      · right
        apply request_carries rfl small (Nat.le_of_not_lt short) offsetSet _ copied
        intro store mem
        rcases copiesInside store mem with ⟨here, room⟩
        exact ⟨here, Nat.add_le_add_left room 28⟩
    · left
      apply if_pos
      omega

/-- The copy of `rndis_build_query`. -/
def queryCopies (input : Option Bytes) (len : UInt32) : List (Nat × Bytes) :=
  match input with
  | some bytes => if len ≠ 0 then [(28, bytes.take len.toNat)] else []
  | none => []

theorem rndisBuildQuery_eq (bufLen : Nat) (requestId oid len : UInt32) (input : Option Bytes) :
    rndisBuildQuery bufLen requestId oid input len =
      if bufLen < (querySetHdrLen + len).toNat then .refused else
        ⟨requestHeader msgQuery (querySetHdrLen + len).toNat requestId oid len
          (if len ≠ 0 then 20 else 0) ++ queryCopies input len, (querySetHdrLen + len).toNat⟩ :=
  rfl

theorem rndisBuildSet_eq (bufLen : Nat) (requestId oid len : UInt32) (value : Bytes) :
    rndisBuildSet bufLen requestId oid value len =
      if bufLen < (querySetHdrLen + len).toNat then .refused else
        ⟨requestHeader msgSet (querySetHdrLen + len).toNat requestId oid len 20 ++
          [(28, value.take len.toNat)], (querySetHdrLen + len).toNat⟩ :=
  rfl

theorem queryCopies_inside (input : Option Bytes) (len : UInt32) :
    ∀ store ∈ queryCopies input len, store.1 = 28 ∧ store.2.length ≤ len.toNat := by
  intro store mem
  cases input with
  | none => cases mem
  | some bytes =>
      rw [queryCopies] at mem
      split_ifs at mem with nonempty
      · cases List.mem_singleton.mp mem
        exact ⟨rfl, List.length_take_le _ _⟩
      · cases mem

theorem queryCopies_some {bytes : Bytes} {len : UInt32} (some_ : bytes.take len.toNat ≠ []) :
    queryCopies (some bytes) len = [(28, bytes.take len.toNat)] := by
  apply if_pos
  rintro rfl
  exact some_ List.take_zero

/-- **The bounds of the control builders.**  A builder refuses and writes nothing, or builds
its whole request inside the buffer, exactly if the length of the payload does not wrap the
total, or the buffer is too short for the wrapped total too. -/
theorem rndis_build_sound_iff (buf : Bytes) (requestId oid len : UInt32) (input : Option Bytes)
    (value : Bytes) :
    ((rndisBuildQuery buf.length requestId oid input len).Sound buf len input ↔
        TotalChecked buf.length len) ∧
      ((rndisBuildSet buf.length requestId oid value len).Sound buf len (some value) ↔
        TotalChecked buf.length len) := by
  constructor
  · apply request_sound_iff (rndisBuildQuery_eq buf.length requestId oid len input)
    · exact fun nonempty => if_pos nonempty
    · exact queryCopies_inside input len
    · rintro bytes rfl
      exact queryCopies_some
  · apply request_sound_iff (rndisBuildSet_eq buf.length requestId oid len value)
    · exact fun _ => rfl
    · rintro store mem
      cases List.mem_singleton.mp mem
      exact ⟨rfl, List.length_take_le _ _⟩
    · rintro bytes ⟨⟩ _
      rfl

/-- A query with 2^32 - 28 as its length stores its header into no buffer at all, and reports
no message. -/
theorem rndisBuildQuery_unsound :
    ¬ ∀ (buf : Bytes) (requestId oid len : UInt32) (input : Option Bytes),
      (rndisBuildQuery buf.length requestId oid input len).Sound buf len input := by
  intro claimed
  rcases claimed [] 7 oidGenLinkSpeed 0xFFFFFFE4 none with refused | carries
  · cases congrArg Built.stores refused
  · exact absurd carries.total (by decide)

end WiredTethering.Rndis
