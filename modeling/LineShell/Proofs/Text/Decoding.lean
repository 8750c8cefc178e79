import LineShell.Text.Utf8
/-!
# Decoding — what is read of the bytes of a text

The bytes of a text are read as that text again (`decode_ofString`), so that bytes are those of a text exactly if
writing out what is read of them gives them back (`Bytes.isText_iff`).  A byte below 0x80 is a character of its own
wherever it stands, and parts what is read before it from what is read behind it (`decode_of_lt`).
-/
namespace LineShell
namespace Utf8

namespace Decoder

/-- A decoder with a text read before it, latest first. -/
def behind (d : Decoder) (front : List Char) : Decoder := { d with read := d.read ++ front }

theorem start_behind (read front : List Char) (b : UInt8) : start (read ++ front) b = (start read b).behind front := by
  unfold start
  repeat' split
  all_goals rfl

theorem feed_behind (d : Decoder) (front : List Char) (b : UInt8) : (d.behind front).feed b = (d.feed b).behind front := by
  obtain ⟨read, pending⟩ := d
  cases pending with
  | nothing => exact start_behind read front b
  | owed value low high more =>
    simp only [feed, behind]
    split
    · cases more <;> rfl
    · exact start_behind (replacement :: read) front b

theorem foldl_behind (bytes : Bytes) (d : Decoder) (front : List Char) :
    bytes.foldl feed (d.behind front) = (bytes.foldl feed d).behind front :=
  List.foldl_hom (fun d : Decoder => d.behind front) (fun d b => d.feed_behind front b)

theorem text_behind (d : Decoder) (front : List Char) : (d.behind front).text = front.reverse ++ d.text := by
  obtain ⟨read, pending⟩ := d
  cases pending <;> simp [text, behind]

/-- **A byte below 0x80 is a character of its own** behind all that was read, a character cut short replaced. -/
theorem feed_of_lt (d : Decoder) {b : UInt8} (hb : b < 0x80) :
    d.feed b = ⟨Char.ofNat b.toNat :: d.text.reverse, .nothing⟩ := by
  obtain ⟨read, pending⟩ := d
  cases pending with
  | nothing => simp [feed, start, text, hb]
  | owed value low high more =>
    have hn : ¬ (0x80 : UInt8) ≤ b := UInt8.not_le.2 hb
    simp [feed, start, text, hb, hn]

/-! ## The bytes of one character -/

variable {read : List Char} {value n : Nat} {low high : UInt8}

theorem start_ofNat (read : List Char) (hn : n < 256) : start read (UInt8.ofNat n) =
    if n < 0x80 then ⟨Char.ofNat n :: read, .nothing⟩
    else if n < 0xC2 then ⟨replacement :: read, .nothing⟩
    else if n < 0xE0 then ⟨read, .owed (n - 0xC0) 0x80 0xBF 0⟩
    else if n = 0xE0 then ⟨read, .owed 0 0xA0 0xBF 1⟩
    else if n = 0xED then ⟨read, .owed 0xD 0x80 0x9F 1⟩
    else if n < 0xF0 then ⟨read, .owed (n - 0xE0) 0x80 0xBF 1⟩
    else if n = 0xF0 then ⟨read, .owed 0 0x90 0xBF 2⟩
    else if n < 0xF4 then ⟨read, .owed (n - 0xF0) 0x80 0xBF 2⟩
    else if n = 0xF4 then ⟨read, .owed 4 0x80 0x8F 2⟩
    else ⟨replacement :: read, .nothing⟩ := by
  have hb : (UInt8.ofNat n).toNat = n := UInt8.toNat_ofNat_of_lt hn
  simp only [start, UInt8.lt_iff_toNat_lt, ← UInt8.toNat_inj, hb]
  rfl

theorem feed_owed (more : Nat) (hn : n < 0x40) (hlow : low.toNat ≤ n + 0x80) (hhigh : n + 0x80 ≤ high.toNat) :
    feed ⟨read, .owed value low high more⟩ (UInt8.ofNat (n + 0x80)) =
      match more with
      | 0 => ⟨Char.ofNat (value * 64 + n) :: read, .nothing⟩
      | more + 1 => ⟨read, .owed (value * 64 + n) 0x80 0xBF more⟩ := by
  have hb : (UInt8.ofNat (n + 0x80)).toNat = n + 0x80 := UInt8.toNat_ofNat_of_lt (show n + 0x80 < 2 ^ 8 by omega)
  have hfits : (0x80 : UInt8) ≤ UInt8.ofNat (n + 0x80) ∧ low ≤ UInt8.ofNat (n + 0x80) ∧ UInt8.ofNat (n + 0x80) ≤ high := by
    simp only [UInt8.le_iff_toNat_le, hb]
    exact ⟨Nat.le_add_left 0x80 n, hlow, hhigh⟩
  cases more <;> simp only [feed, if_pos hfits, hb, Nat.add_sub_cancel]

theorem feed_tail (more : Nat) (hn : n < 0x40) : feed ⟨read, .owed value 0x80 0xBF more⟩ (UInt8.ofNat (n + 0x80)) =
      match more with
      | 0 => ⟨Char.ofNat (value * 64 + n) :: read, .nothing⟩
      | more + 1 => ⟨read, .owed (value * 64 + n) 0x80 0xBF more⟩ :=
  feed_owed more hn (show (0x80 : Nat) ≤ _ by omega) (show _ ≤ (0xBF : Nat) by omega)

theorem feed_start (read : List Char) (b : UInt8) : feed ⟨read, .nothing⟩ b = start read b := rfl

theorem foldl_feed_encode (c : Char) (read : List Char) :
    (String.utf8EncodeChar c).foldl feed ⟨read, .nothing⟩ = ⟨c :: read, .nothing⟩ := by
  have hvalid : c.val.toNat < 0xD800 ∨ 0xDFFF < c.val.toNat ∧ c.val.toNat < 0x110000 := c.valid
  have hc : Char.ofNat c.val.toNat = c := Char.ofNat_toNat c
  unfold String.utf8EncodeChar
  generalize c.val.toNat = v at *
  dsimp only
  by_cases h₁ : v ≤ 0x7F
  · rw [if_pos h₁, List.foldl_cons, feed_start, start_ofNat _ (by omega), if_pos (by omega), hc]
    rfl
  by_cases h₂ : v ≤ 0x7FF
  · rw [if_neg h₁, if_pos h₂, List.foldl_cons, feed_start, start_ofNat _ (by omega), if_neg (by omega),
      if_neg (by omega), if_pos (by omega), List.foldl_cons, feed_tail 0 (by omega),
      show (v / 64 % 32 + 192 - 0xC0) * 64 + v % 64 = v by omega, hc]
    rfl
  by_cases h₃ : v ≤ 0xFFFF
  · -- The second byte is bounded below behind the first of the leading bytes, and above before the surrogates.
    rw [if_neg h₁, if_neg h₂, if_pos h₃, List.foldl_cons, feed_start, start_ofNat _ (by omega), if_neg (by omega),
      if_neg (by omega), if_neg (by omega), List.foldl_cons]
    have hrest : ∀ value low high, value * 64 + v / 64 % 64 = v / 64 → low.toNat ≤ v / 64 % 64 + 0x80 →
        v / 64 % 64 + 0x80 ≤ high.toNat → [UInt8.ofNat (v % 64 + 128)].foldl feed
          (feed ⟨read, .owed value low high 1⟩ (UInt8.ofNat (v / 64 % 64 + 128))) = ⟨c :: read, .nothing⟩ := by
      intro value low high hvalue hlow hhigh
      rw [feed_owed 1 (by omega) hlow hhigh, hvalue, List.foldl_cons, feed_tail 0 (by omega),
        show v / 64 * 64 + v % 64 = v by omega, hc]
      rfl
    split
    · exact hrest 0 0xA0 0xBF (by omega) (show (0xA0 : Nat) ≤ _ by omega) (show _ ≤ (0xBF : Nat) by omega)
    split
    · exact hrest 0xD 0x80 0x9F (by omega) (show (0x80 : Nat) ≤ _ by omega) (show _ ≤ (0x9F : Nat) by omega)
    rw [if_pos (by omega)]
    exact hrest _ 0x80 0xBF (by omega) (show (0x80 : Nat) ≤ _ by omega) (show _ ≤ (0xBF : Nat) by omega)
  · rw [if_neg h₁, if_neg h₂, if_neg h₃, List.foldl_cons, feed_start, start_ofNat _ (by omega), if_neg (by omega),
      if_neg (by omega), if_neg (by omega), if_neg (by omega), if_neg (by omega), if_neg (by omega), List.foldl_cons]
    have hrest : ∀ value low high, value * 64 + v / 4096 % 64 = v / 4096 → low.toNat ≤ v / 4096 % 64 + 0x80 →
        v / 4096 % 64 + 0x80 ≤ high.toNat →
        [UInt8.ofNat (v / 64 % 64 + 128), UInt8.ofNat (v % 64 + 128)].foldl feed
          (feed ⟨read, .owed value low high 2⟩ (UInt8.ofNat (v / 4096 % 64 + 128))) = ⟨c :: read, .nothing⟩ := by
      intro value low high hvalue hlow hhigh
      rw [feed_owed 2 (by omega) hlow hhigh, hvalue, List.foldl_cons, feed_tail 1 (by omega), List.foldl_cons,
        feed_tail 0 (by omega), show (v / 4096 * 64 + v / 64 % 64) * 64 + v % 64 = v by omega, hc]
      rfl
    split
    · exact hrest 0 0x90 0xBF (by omega) (show (0x90 : Nat) ≤ _ by omega) (show _ ≤ (0xBF : Nat) by omega)
    split
    · exact hrest _ 0x80 0xBF (by omega) (show (0x80 : Nat) ≤ _ by omega) (show _ ≤ (0xBF : Nat) by omega)
    rw [if_pos (by omega)]
    exact hrest 4 0x80 0x8F (by omega) (show (0x80 : Nat) ≤ _ by omega) (show _ ≤ (0x8F : Nat) by omega)

theorem foldl_feed_text (text read : List Char) :
    (text.flatMap String.utf8EncodeChar).foldl feed ⟨read, .nothing⟩ = ⟨text.reverse ++ read, .nothing⟩ := by
  induction text generalizing read with
  | nil => rfl
  | cons c text ih => rw [List.flatMap_cons, List.foldl_append, foldl_feed_encode, ih]; simp

end Decoder

/-- **The bytes of a text are read as that text.** -/
theorem decode_ofString (s : String) : decode (Bytes.ofString s) = s.toList := by
  have hread := Decoder.foldl_feed_text s.toList []
  rw [decode, Bytes.ofString, hread]
  simp [Decoder.text]

/-- **A byte below 0x80 parts what is read.** -/
theorem decode_of_lt {b : UInt8} (hb : b < 0x80) (front back : Bytes) :
    decode (front ++ b :: back) = decode front ++ Char.ofNat b.toNat :: decode back := by
  have hfeed : (front.foldl Decoder.feed {}).feed b =
      ({} : Decoder).behind (Char.ofNat b.toNat :: (decode front).reverse) := Decoder.feed_of_lt _ hb
  rw [decode, List.foldl_append, List.foldl_cons, hfeed, Decoder.foldl_behind, Decoder.text_behind, List.reverse_cons,
    List.reverse_reverse, List.append_assoc]
  rfl

end Utf8

namespace Bytes

def IsText (bytes : Bytes) : Prop := ∃ s, ofString s = bytes

theorem toText_ofString (s : String) : toText (ofString s) = s := by
  rw [toText, Utf8.decode_ofString, String.ofList_toList]

theorem isText_iff {bytes : Bytes} : bytes.IsText ↔ ofString bytes.toText = bytes := by
  constructor
  · rintro ⟨s, rfl⟩
    rw [toText_ofString]
  · exact fun h => ⟨_, h⟩

instance (bytes : Bytes) : Decidable bytes.IsText := decidable_of_iff _ isText_iff.symm

theorem ofString_inj {s t : String} (h : ofString s = ofString t) : s = t := by
  rw [← toText_ofString s, h, toText_ofString]

theorem isText_nil : IsText [] := ⟨"", rfl⟩

theorem IsText.append {front back : Bytes} (hf : front.IsText) (hb : back.IsText) : (front ++ back).IsText := by
  obtain ⟨s, rfl⟩ := hf
  obtain ⟨t, rfl⟩ := hb
  exact ⟨s ++ t, ofString_append s t⟩

end Bytes
end LineShell
