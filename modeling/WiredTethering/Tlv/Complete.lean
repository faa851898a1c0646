import WiredTethering.Tlv.Options

/-!
# Areas made of complete options

`Complete` describes the areas that consist of padding and of whole options, with
the options they hold.  Decoding such an area in front of the stop tag, or at the
end of the buffer, gives back exactly these options (`Complete.decode_append`).

Every area has a longest prefix of this form, and what follows it does not change
what is decoded (`exists_longest`).
-/

namespace WiredTethering.Tlv

open WiredTethering.Memory

/-- The bytes of an option. -/
def Item.encode (item : Item) : Bytes :=
  [item.tag, UInt8.ofNat item.value.length] ++ item.value

/-- An option that can be written: its tag is none of the two special ones, and its
length fits the length byte. -/
structure Item.Writable (pad stop : UInt8) (item : Item) : Prop where
  notPad : item.tag ≠ pad
  notStop : item.tag ≠ stop
  short : item.value.length ≤ 255

/-- An area of padding and whole options, with the options in it. -/
inductive Complete (pad stop : UInt8) : Bytes → List Item → Prop where
  | nil : Complete pad stop [] []
  | pad {area : Bytes} {items : List Item} (rest : Complete pad stop area items) :
      Complete pad stop (pad :: area) items
  | option {area : Bytes} {items : List Item} (item : Item)
      (writable : item.Writable pad stop) (rest : Complete pad stop area items) :
      Complete pad stop (item.encode ++ area) (item :: items)

/-- What may follow: nothing, or the stop tag and any bytes. -/
def Ends (stop : UInt8) (tail : Bytes) : Prop :=
  tail = [] ∨ ∃ after, tail = stop :: after

variable {pad stop : UInt8}

/-! ## One item at a time -/

section Items

variable {area : Bytes} {i : Nat}

theorem decode_of_outside (outside : area.length ≤ i) : decode pad stop area i = [] := by
  rw [decode, if_neg (Nat.not_lt.mpr outside)]

theorem decode_of_pad (inside : i < area.length) (read : byteAt area i = pad) :
    decode pad stop area i = decode pad stop area (i + 1) := by
  rw [decode, if_pos inside]
  exact if_pos read

theorem decode_of_stop (different : stop ≠ pad) (read : byteAt area i = stop) :
    decode pad stop area i = [] := by
  rw [decode]
  dsimp only
  rw [read, if_neg different, if_pos rfl, ite_self]

/-- An option whose length byte or value is cut off ends the area. -/
theorem decode_of_cut (not_pad : byteAt area i ≠ pad)
    (cut : area.length < i + 2 + (byteAt area (i + 1)).toNat) :
    decode pad stop area i = [] := by
  rw [decode]
  dsimp only
  rw [if_neg not_pad, if_pos cut, ite_self, ite_self, ite_self]

theorem decode_of_option (not_pad : byteAt area i ≠ pad) (not_stop : byteAt area i ≠ stop)
    (fits : i + 2 + (byteAt area (i + 1)).toNat ≤ area.length) :
    decode pad stop area i =
      ⟨byteAt area i, slice area (i + 2) (byteAt area (i + 1)).toNat⟩ ::
        decode pad stop area (i + 2 + (byteAt area (i + 1)).toNat) := by
  rw [decode]
  dsimp only
  rw [if_pos (by omega), if_neg not_pad, if_neg not_stop, if_neg (by omega),
    if_neg (Nat.not_lt.mpr fits)]

end Items

/-! ## Decoding from the front -/

/-- Decoding from an offset is decoding what follows it. -/
theorem decode_append (different : stop ≠ pad) (front area : Bytes) (i : Nat) :
    decode pad stop (front ++ area) (front.length + i) = decode pad stop area i := by
  induction i using decode.induct pad stop area with
  | case1 i inside tag is_pad ih =>
      have read : byteAt area i = pad := is_pad
      rw [decode_of_pad inside read, ← ih]
      apply decode_of_pad
      · rw [List.length_append]
        exact Nat.add_lt_add_left inside _
      · rw [byteAt_length_add, read]
  | case2 i inside tag not_pad is_stop =>
      have read : byteAt area i = stop := is_stop
      rw [decode_of_stop different read]
      apply decode_of_stop different
      rw [byteAt_length_add, read]
  | case3 i inside tag not_pad not_stop no_length =>
      have cut : area.length < i + 2 + (byteAt area (i + 1)).toNat := by omega
      rw [decode_of_cut not_pad cut]
      apply decode_of_cut
      · rwa [byteAt_length_add]
      · rw [Nat.add_assoc front.length i 1, byteAt_length_add, List.length_append]
        omega
  | case4 i inside tag not_pad not_stop length n too_long =>
      have cut : area.length < i + 2 + (byteAt area (i + 1)).toNat := too_long
      rw [decode_of_cut not_pad cut]
      apply decode_of_cut
      · rwa [byteAt_length_add]
      · rw [Nat.add_assoc front.length i 1, byteAt_length_add, List.length_append]
        omega
  | case5 i inside tag not_pad not_stop length n fits ih =>
      have within : i + 2 + (byteAt area (i + 1)).toNat ≤ area.length := Nat.not_lt.mp fits
      have tag_read := byteAt_length_add front area i
      have length_read := byteAt_length_add front area (i + 1)
      have value_read := slice_length_add front area (i + 2) (byteAt area (i + 1)).toNat
      have same := @decode_of_option pad stop (front ++ area) (front.length + i)
      rw [decode_of_option not_pad not_stop within, ← ih]
      simp only [Nat.add_assoc] at same tag_read length_read value_read ⊢
      rw [tag_read, length_read, value_read] at same
      apply same not_pad not_stop
      rw [List.length_append]
      omega
  | case6 i outside =>
      rw [decode_of_outside (Nat.not_lt.mp outside)]
      apply decode_of_outside
      rw [List.length_append]
      omega

theorem decode_nil : decode pad stop [] 0 = [] :=
  decode_of_outside (Nat.le_refl 0)

theorem decode_pad (different : stop ≠ pad) (area : Bytes) :
    decode pad stop (pad :: area) 0 = decode pad stop area 0 := by
  have behind := decode_append different [pad] area 0
  have first : decode pad stop (pad :: area) 0 = decode pad stop (pad :: area) (0 + 1) :=
    decode_of_pad (Nat.zero_lt_succ _) rfl
  exact first.trans behind

theorem Ends.decode_nil (different : stop ≠ pad) {tail : Bytes} (ends : Ends stop tail) :
    decode pad stop tail 0 = [] := by
  rcases ends with rfl | ⟨after, rfl⟩
  · exact Tlv.decode_nil
  · exact decode_of_stop different rfl

theorem Item.encode_length (item : Item) : item.encode.length = 2 + item.value.length := by
  rw [Item.encode, List.length_append]
  rfl

theorem decode_item (different : stop ≠ pad) {item : Item} (writable : item.Writable pad stop)
    (area : Bytes) : decode pad stop (item.encode ++ area) 0 = item :: decode pad stop area 0 := by
  have length : (byteAt (item.encode ++ area) (0 + 1)).toNat = item.value.length := by
    have short := writable.short
    rw [show byteAt (item.encode ++ area) (0 + 1) = UInt8.ofNat item.value.length from rfl,
      UInt8.toNat_ofNat']
    exact Nat.mod_eq_of_lt (by omega)
  have value : slice (item.encode ++ area) (0 + 2) item.value.length = item.value :=
    slice_append_exact item.value area
  have behind := decode_append different item.encode area 0
  have first := @decode_of_option pad stop (item.encode ++ area) 0 writable.notPad
    writable.notStop
  rw [length, value, Nat.zero_add] at first
  rw [Item.encode_length, Nat.add_zero] at behind
  rw [first, behind]
  · rfl
  · rw [List.length_append, Item.encode_length]
    exact Nat.le_add_right _ _

/-- Complete options in front of an area are decoded first. -/
theorem Complete.decode_append (different : stop ≠ pad) {area : Bytes} {items : List Item}
    (complete : Complete pad stop area items) (tail : Bytes) :
    decode pad stop (area ++ tail) 0 = items ++ decode pad stop tail 0 := by
  induction complete with
  | nil => rfl
  | pad rest ih => rw [List.cons_append, decode_pad different, ih]
  | option item writable rest ih =>
      rw [List.append_assoc, decode_item different writable, ih, List.cons_append]

/-- Options written one after the other. -/
theorem complete_flatMap {items : List Item} (writable : ∀ item ∈ items, item.Writable pad stop) :
    Complete pad stop (items.flatMap Item.encode) items := by
  induction items with
  | nil => exact .nil
  | cons item items ih =>
      rw [List.flatMap_cons]
      exact .option item (writable item List.mem_cons_self)
        (ih fun other member => writable other (List.mem_cons_of_mem _ member))

/-! ## The longest prefix -/

/-- Neither padding nor a complete option stands at the front of an area. -/
def Stuck (pad stop : UInt8) (area : Bytes) : Prop :=
  (∀ rest, area ≠ pad :: rest) ∧
    ∀ item : Item, item.Writable pad stop → ∀ rest, area ≠ item.encode ++ rest

/-- An option that is not cut off is its bytes and what follows. -/
theorem split_option {area : Bytes} (fits : 2 + (byteAt area 1).toNat ≤ area.length) :
    area = Item.encode ⟨byteAt area 0, slice area 2 (byteAt area 1).toNat⟩ ++
      area.drop (2 + (byteAt area 1).toNat) := by
  rcases area with _ | ⟨tag, _ | ⟨length, rest⟩⟩
  · simp at fits
  · simp only [List.length_cons, List.length_nil] at fits
    omega
  · have read : byteAt (tag :: length :: rest) 1 = length := rfl
    rw [read] at fits ⊢
    have sized : (rest.take length.toNat).length = length.toNat := by
      rw [List.length_take]
      simp only [List.length_cons] at fits
      omega
    have value : slice (tag :: length :: rest) 2 length.toNat = rest.take length.toNat := rfl
    have behind : (tag :: length :: rest).drop (2 + length.toNat) = rest.drop length.toNat := by
      rw [Nat.add_comm]
      rfl
    rw [value, behind, Item.encode, sized, UInt8.ofNat_toNat]
    simp only [List.cons_append, List.nil_append, List.take_append_drop]
    rfl

/-- Nothing is decoded where nothing complete stands. -/
theorem Stuck.decode_nil (different : stop ≠ pad) {area : Bytes} (stuck : Stuck pad stop area) :
    decode pad stop area 0 = [] := by
  rcases area with _ | ⟨tag, rest⟩
  · exact Tlv.decode_nil
  have not_pad : tag ≠ pad := by
    rintro rfl
    exact stuck.1 rest rfl
  by_cases is_stop : tag = stop
  · exact decode_of_stop different is_stop
  have not_read : byteAt (tag :: rest) 0 ≠ pad := not_pad
  apply decode_of_cut not_read
  by_contra fits
  have fits : 2 + (byteAt (tag :: rest) 1).toNat ≤ (tag :: rest).length := by
    simpa only [Nat.zero_add, Nat.not_lt] using fits
  have bound := (byteAt (tag :: rest) 1).toNat_lt
  have sized : (slice (tag :: rest) 2 (byteAt (tag :: rest) 1).toNat).length ≤ 255 := by
    rw [slice_length fits]
    omega
  exact stuck.2 _ ⟨not_pad, is_stop, sized⟩ _ (split_option fits)

/-- Every area is a longest complete prefix and a rest where nothing complete
stands. -/
theorem exists_stuck (pad stop : UInt8) (area : Bytes) :
    ∃ front items rest, area = front ++ rest ∧ Complete pad stop front items ∧
      Stuck pad stop rest := by
  induction length : area.length using Nat.strong_induction_on generalizing area with
  | _ n ih =>
      by_cases padded : ∃ rest, area = pad :: rest
      · rcases padded with ⟨behind, rfl⟩
        rcases ih behind.length (by rw [← length]; exact Nat.lt_succ_self _) behind rfl with
          ⟨front, items, rest, split, complete, stuck⟩
        exact ⟨pad :: front, items, rest, congrArg (pad :: ·) split, .pad complete, stuck⟩
      by_cases option : ∃ item : Item, item.Writable pad stop ∧ ∃ rest, area = item.encode ++ rest
      · rcases option with ⟨item, writable, behind, rfl⟩
        have shorter : behind.length < n := by
          rw [← length, List.length_append, Item.encode_length]
          omega
        rcases ih behind.length shorter behind rfl with
          ⟨front, items, rest, split, complete, stuck⟩
        refine ⟨item.encode ++ front, item :: items, rest, ?_, .option item writable complete,
          stuck⟩
        rw [List.append_assoc, ← split]
      · push Not at padded option
        exact ⟨[], [], area, rfl, .nil, padded, option⟩

/-- What an option's bytes are followed by can be told apart from them. -/
theorem encode_cancel {item other : Item} {behind rest : Bytes}
    (short : item.value.length ≤ 255) (other_short : other.value.length ≤ 255)
    (same : item.encode ++ behind = other.encode ++ rest) : item = other ∧ behind = rest := by
  obtain ⟨tag, value⟩ := item
  obtain ⟨tag', value'⟩ := other
  obtain ⟨rfl, same⟩ := List.cons.inj same
  obtain ⟨lengths, same⟩ := List.cons.inj same
  have length : value.length = value'.length := by
    have counts := congrArg UInt8.toNat lengths
    rw [UInt8.toNat_ofNat', UInt8.toNat_ofNat',
      Nat.mod_eq_of_lt (Nat.lt_succ_of_le short),
      Nat.mod_eq_of_lt (Nat.lt_succ_of_le other_short)] at counts
    exact counts
  rcases List.append_inj same length with ⟨rfl, rfl⟩
  exact ⟨rfl, rfl⟩

/-- A complete prefix is no longer than one behind which nothing complete stands. -/
theorem Complete.le_of_stuck {longest front rest behind : Bytes} {items other : List Item}
    (complete : Complete pad stop longest items) (stuck : Stuck pad stop rest)
    (short : Complete pad stop front other) (split : longest ++ rest = front ++ behind) :
    front.length ≤ longest.length := by
  induction complete generalizing front other with
  | nil =>
      cases short with
      | nil => exact Nat.le_refl 0
      | pad _ => exact absurd split (stuck.1 _)
      | option item writable _ =>
          rw [List.nil_append, List.append_assoc] at split
          exact absurd split (stuck.2 item writable _)
  | pad _ ih =>
      cases short with
      | nil => exact Nat.zero_le _
      | pad shorter => exact Nat.succ_le_succ (ih shorter (List.cons.inj split).2)
      | option item writable _ => exact absurd (List.cons.inj split).1.symm writable.notPad
  | option item writable _ ih =>
      cases short with
      | nil => exact Nat.zero_le _
      | pad _ => exact absurd (List.cons.inj split).1 writable.notPad
      | option item' writable' shorter =>
          rw [List.append_assoc, List.append_assoc] at split
          rcases encode_cancel writable.short writable'.short split with ⟨rfl, behind⟩
          rw [List.length_append, List.length_append]
          exact Nat.add_le_add_left (ih shorter behind) _

end WiredTethering.Tlv
