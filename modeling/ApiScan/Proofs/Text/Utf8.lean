import ApiScan.Text.Utf8

set_option autoImplicit false

/-! # Texts through bytes

A text is read back from its UTF-8 form. The decoder goes through one state for each continuation
byte, so the form of a character is followed byte by byte, by the number of its bytes. -/

namespace ApiScan.Text

/-! ## One byte -/

theorem decodeFrom_lead {n : Nat} (hn : n < 256) {state : DecodeState}
    (h : leadByte n = some (.inr state)) (bytes : Bytes) :
    decodeFrom .start (UInt8.ofNat n :: bytes) = decodeFrom state bytes := by
  rw [decodeFrom, UInt8.toNat_ofNat_of_lt' hn, h]

theorem decodeFrom_last {n bits low high : Nat} (hn : n < 256) (hlow : low ≤ n) (hhigh : n ≤ high)
    (bytes : Bytes) :
    decodeFrom (.inside bits 1 low high) (UInt8.ofNat n :: bytes)
      = some (Char.ofNat (bits * 64 + (n - 0x80))) :: decodeFrom .start bytes := by
  rw [decodeFrom, UInt8.toNat_ofNat_of_lt' hn, if_pos ⟨hlow, hhigh⟩]
  rfl

theorem decodeFrom_more {n bits owed low high : Nat} (hn : n < 256) (hlow : low ≤ n)
    (hhigh : n ≤ high) (bytes : Bytes) :
    decodeFrom (.inside bits (owed + 2) low high) (UInt8.ofNat n :: bytes)
      = decodeFrom (.inside (bits * 64 + (n - 0x80)) (owed + 1) 0x80 0xBF) bytes := by
  rw [decodeFrom, UInt8.toNat_ofNat_of_lt' hn, if_pos ⟨hlow, hhigh⟩]
  exact if_neg (by omega)

/-! ## One character -/

theorem toNat_valid (c : Char) : c.toNat < 0xD800 ∨ 0xDFFF < c.toNat ∧ c.toNat < 0x110000 := c.valid

theorem decodeFrom_two {n : Nat} (hlow : 0x80 ≤ n) (hhigh : n < 0x800) (bytes : Bytes) :
    decodeFrom .start (UInt8.ofNat (n / 64 % 32 + 0xC0) :: UInt8.ofNat (n % 64 + 0x80) :: bytes)
      = some (Char.ofNat n) :: decodeFrom .start bytes := by
  have hlead : leadByte (n / 64 % 32 + 0xC0)
      = some (.inr (.inside (n / 64) 1 0x80 0xBF)) := by
    rw [leadByte, if_neg (by omega), if_neg (by omega), if_pos (by omega),
      show n / 64 % 32 + 0xC0 - 0xC0 = n / 64 by omega]
  rw [decodeFrom_lead (by omega) hlead, decodeFrom_last (by omega) (by omega) (by omega),
    show n / 64 * 64 + (n % 64 + 0x80 - 0x80) = n by omega]

theorem decodeFrom_three {n : Nat} (hlow : 0x800 ≤ n) (hhigh : n < 0x10000)
    (hvalid : n < 0xD800 ∨ 0xDFFF < n) (bytes : Bytes) :
    decodeFrom .start (UInt8.ofNat (n / 4096 % 16 + 0xE0) :: UInt8.ofNat (n / 64 % 64 + 0x80)
        :: UInt8.ofNat (n % 64 + 0x80) :: bytes)
      = some (Char.ofNat n) :: decodeFrom .start bytes := by
  -- the range of the second byte depends on the first one
  obtain ⟨low, high, hlead, hin⟩ : ∃ low high,
      leadByte (n / 4096 % 16 + 0xE0) = some (.inr (.inside (n / 4096) 2 low high))
        ∧ low ≤ n / 64 % 64 + 0x80 ∧ n / 64 % 64 + 0x80 ≤ high := by
    unfold leadByte
    rw [if_neg (by omega), if_neg (by omega), if_neg (by omega)]
    split
    · exact ⟨0xA0, 0xBF, by rw [show n / 4096 = 0 by omega], by omega, by omega⟩
    · split
      · exact ⟨0x80, 0x9F, by rw [show n / 4096 = 0xD by omega], by omega, by omega⟩
      · rw [if_pos (by omega)]
        exact ⟨0x80, 0xBF, by rw [show n / 4096 % 16 + 0xE0 - 0xE0 = n / 4096 by omega], by omega,
          by omega⟩
  rw [decodeFrom_lead (by omega) hlead, decodeFrom_more (by omega) hin.1 hin.2,
    decodeFrom_last (by omega) (by omega) (by omega),
    show (n / 4096 * 64 + (n / 64 % 64 + 0x80 - 0x80)) * 64 + (n % 64 + 0x80 - 0x80) = n by omega]

theorem decodeFrom_four {n : Nat} (hlow : 0x10000 ≤ n) (hhigh : n < 0x110000) (bytes : Bytes) :
    decodeFrom .start (UInt8.ofNat (n / 262144 % 8 + 0xF0) :: UInt8.ofNat (n / 4096 % 64 + 0x80)
        :: UInt8.ofNat (n / 64 % 64 + 0x80) :: UInt8.ofNat (n % 64 + 0x80) :: bytes)
      = some (Char.ofNat n) :: decodeFrom .start bytes := by
  obtain ⟨low, high, hlead, hin⟩ : ∃ low high,
      leadByte (n / 262144 % 8 + 0xF0) = some (.inr (.inside (n / 262144) 3 low high))
        ∧ low ≤ n / 4096 % 64 + 0x80 ∧ n / 4096 % 64 + 0x80 ≤ high := by
    unfold leadByte
    rw [if_neg (by omega), if_neg (by omega), if_neg (by omega), if_neg (by omega),
      if_neg (by omega), if_neg (by omega)]
    split
    · exact ⟨0x90, 0xBF, by rw [show n / 262144 = 0 by omega], by omega, by omega⟩
    · split
      · exact ⟨0x80, 0xBF, by rw [show n / 262144 % 8 + 0xF0 - 0xF0 = n / 262144 by omega],
          by omega, by omega⟩
      · rw [if_pos (by omega)]
        exact ⟨0x80, 0x8F, by rw [show n / 262144 = 4 by omega], by omega, by omega⟩
  rw [decodeFrom_lead (by omega) hlead, decodeFrom_more (by omega) hin.1 hin.2,
    decodeFrom_more (by omega) (by omega) (by omega),
    decodeFrom_last (by omega) (by omega) (by omega),
    show ((n / 262144 * 64 + (n / 4096 % 64 + 0x80 - 0x80)) * 64 + (n / 64 % 64 + 0x80 - 0x80)) * 64
      + (n % 64 + 0x80 - 0x80) = n by omega]

theorem decodeFrom_utf8EncodeChar (c : Char) (bytes : Bytes) :
    decodeFrom .start (String.utf8EncodeChar c ++ bytes)
      = some c :: decodeFrom .start bytes := by
  have hvalid := toNat_valid c
  have hc : Char.ofNat c.val.toNat = c := Char.ofNat_toNat c
  change c.val.toNat < 0xD800 ∨ 0xDFFF < c.val.toNat ∧ c.val.toNat < 0x110000 at hvalid
  unfold String.utf8EncodeChar
  simp only
  split
  · next h =>
      rw [List.cons_append, List.nil_append, decodeFrom, UInt8.toNat_ofNat_of_lt' (show c.val.toNat < 256 by omega),
        leadByte, if_pos (by omega), hc]
  · split
    · next h =>
        rw [List.cons_append, List.cons_append, List.nil_append,
          decodeFrom_two (by omega) (by omega), hc]
    · split
      · next h =>
          rw [List.cons_append, List.cons_append, List.cons_append, List.nil_append,
            decodeFrom_three (by omega) (by omega) (by omega), hc]
      · rw [List.cons_append, List.cons_append, List.cons_append, List.cons_append,
          List.nil_append, decodeFrom_four (by omega) (by omega), hc]

/-! ## Whole texts -/

theorem decodeFrom_toBytes (s : Text) : decodeFrom .start (toBytes s) = s.map some := by
  induction s with
  | nil => rfl
  | cons c s ih =>
      show decodeFrom .start (String.utf8EncodeChar c ++ toBytes s) = some c :: s.map some
      rw [decodeFrom_utf8EncodeChar, ih]

/-- **A text is read back from its UTF-8 form.** -/
theorem ofBytes?_toBytes (s : Text) : ofBytes? (toBytes s) = some s := by
  unfold ofBytes?
  rw [decodeFrom_toBytes]
  induction s with
  | nil => rfl
  | cons c s ih => simp only [List.map_cons, List.mapM_cons, id, ih, Option.bind_eq_bind,
      Option.bind_some, Option.pure_def]

/-- What follows well-formed bytes is read on its own. -/
theorem decodeFrom_append {state : DecodeState} {bytes : Bytes} (h : none ∉ decodeFrom state bytes)
    (more : Bytes) : decodeFrom state (bytes ++ more) = decodeFrom state bytes ++ decodeFrom .start more := by
  fun_induction decodeFrom state bytes with
  | case1 => rfl
  | case2 => exact absurd List.mem_cons_self h
  | case3 b bytes c hlead ih =>
      rw [List.mem_cons, not_or] at h
      rw [List.cons_append, decodeFrom, hlead]
      exact congrArg (some c :: ·) (ih h.2)
  | case4 b bytes state hlead ih =>
      rw [List.cons_append, decodeFrom, hlead]
      exact ih h
  | case5 => exact absurd List.mem_cons_self h
  | case6 bits owed low high b bytes hrange bits' howed ih =>
      rw [List.mem_cons, not_or] at h
      rw [List.cons_append, decodeFrom, if_pos hrange]
      dsimp only
      rw [if_pos howed, ih h.2, List.cons_append]
  | case7 bits owed low high b bytes hrange bits' howed ih =>
      rw [List.cons_append, decodeFrom, if_pos hrange]
      dsimp only
      rw [if_neg howed]
      exact ih h
  | case8 => exact absurd List.mem_cons_self h
  | case9 => exact absurd List.mem_cons_self h
  | case10 => exact absurd List.mem_cons_self h

theorem ofBytes?_eq_some_iff {bytes : Bytes} {s : Text} :
    ofBytes? bytes = some s ↔ decodeFrom .start bytes = s.map some := by
  unfold ofBytes?
  generalize decodeFrom .start bytes = points
  induction points generalizing s with
  | nil => cases s <;> simp
  | cons point more ih =>
      rw [List.mapM_cons]
      cases point with
      | none => cases s <;> simp
      | some c =>
          constructor
          · intro h
            obtain ⟨rest, hrest, he⟩ := Option.bind_eq_some_iff.1 (show (more.mapM id).bind
              (fun rest => some (c :: rest)) = some s from h)
            rw [← Option.some.inj he, ih.1 hrest]
            rfl
          · intro h
            cases s with
            | nil => exact nomatch h
            | cons first rest =>
                obtain ⟨hfirst, hrest⟩ := List.cons.inj h
                rw [ih.2 hrest, Option.some.inj hfirst]
                rfl

/-- A text that is appended to the bytes of another one is read after it. -/
theorem ofBytes?_append {bytes : Bytes} {s : Text} (h : ofBytes? bytes = some s) (more : Text) :
    ofBytes? (bytes ++ toBytes more) = some (s ++ more) := by
  rw [ofBytes?_eq_some_iff] at h ⊢
  have hnone : none ∉ decodeFrom .start bytes := by
    rw [h]
    simp
  rw [decodeFrom_append hnone, h, decodeFrom_toBytes, List.map_append]

theorem ofBytesLossy_toBytes (s : Text) : ofBytesLossy (toBytes s) = s := by
  rw [ofBytesLossy, decodeFrom_toBytes, List.map_map]
  exact List.map_id s

/-! ## Line breaks -/

/-- A text without carriage returns has the line breaks of every system. -/
theorem unifyBreaks_eq_self {s : Text} (h : '\r' ∉ s) : unifyBreaks s = s := by
  induction s with
  | nil => rfl
  | cons c s ih =>
      have hc : c ≠ '\r' := fun he => h (he ▸ List.mem_cons_self)
      rw [unifyBreaks, ih fun hs => h (List.mem_cons_of_mem c hs)]
      · intro _ he _
        exact hc he
      · intro he
        exact hc he

/-- What stands after a line feed is read on its own. -/
theorem suffix_unifyBreaks_append (s t : Text) :
    unifyBreaks t <:+ unifyBreaks (s ++ '\n' :: t) := by
  fun_induction unifyBreaks s with
  | case1 => exact List.suffix_cons _ _
  | case2 cs ih => exact ih.trans (List.suffix_cons _ _)
  | case3 cs hnot ih =>
      cases cs with
      | nil => exact List.suffix_cons _ _
      | cons c cs =>
          rw [List.cons_append, List.cons_append, unifyBreaks]
          · exact ih.trans (List.suffix_cons _ _)
          · intro rest he
            exact hnot cs (by rw [(List.cons.inj he).1])
  | case4 c cs _ hnot ih =>
      rw [List.cons_append, unifyBreaks]
      · exact ih.trans (List.suffix_cons _ _)
      · intro _ hc _
        exact hnot hc
      · exact hnot

end ApiScan.Text
