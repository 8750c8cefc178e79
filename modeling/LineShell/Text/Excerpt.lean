/-!
# Excerpt — a part of a text, by its bytes

A part of a text can be asked for by the byte at which it starts and the byte at which it stops.  Characters take one
to four bytes, so not every pair of numbers has a part: the two may be out of order, lie behind the text or inside a
character, and then nothing can be read.  An excerpt that can be read fits its text (`Excerpt.fits_iff_exists_read`),
which is then put together from what stands in front of it, the excerpt and what stands behind it
(`Excerpt.read_eq_ok_iff`).
-/
namespace LineShell

/-- A part of a text, from the byte at which it starts to the one at which it stops. -/
structure Excerpt where
  text : String
  start : Nat
  stop : Nat
  deriving DecidableEq, Repr

namespace Excerpt

inductive Misfit where
  /-- One of its ends lies behind the text. -/
  | outside
  /-- It stops before it starts. -/
  | reversed
  /-- One of its ends lies inside a character. -/
  | insideCharacter
  deriving DecidableEq, Repr

/-- Whether an excerpt is made of characters of its text: its ends are in order, within the text and between
characters. -/
structure Fits (e : Excerpt) : Prop where
  start_le_stop : e.start ≤ e.stop
  stop_le_size : e.stop ≤ e.text.utf8ByteSize
  start_isValid : String.Pos.Raw.IsValid e.text ⟨e.start⟩
  stop_isValid : String.Pos.Raw.IsValid e.text ⟨e.stop⟩

def read (e : Excerpt) : Except Misfit String :=
  if e.text.utf8ByteSize < e.start ∨ e.text.utf8ByteSize < e.stop then .error .outside
  else if hle : e.start ≤ e.stop then
    if h : String.Pos.Raw.IsValid e.text ⟨e.start⟩ ∧ String.Pos.Raw.IsValid e.text ⟨e.stop⟩ then
      .ok (e.text.slice ⟨⟨e.start⟩, h.1⟩ ⟨⟨e.stop⟩, h.2⟩ hle).copy
    else .error .insideCharacter
  else .error .reversed

def behindFirst (text : String) : Excerpt := ⟨text, 1, text.utf8ByteSize⟩

def inside (text : String) : Excerpt := ⟨text, 1, text.utf8ByteSize - 1⟩

variable {e : Excerpt} {text part : String}

theorem read_of_fits (h : e.Fits) : e.read =
    .ok (e.text.slice ⟨⟨e.start⟩, h.start_isValid⟩ ⟨⟨e.stop⟩, h.stop_isValid⟩ h.start_le_stop).copy := by
  have hstart : e.start ≤ e.text.utf8ByteSize := Nat.le_trans h.start_le_stop h.stop_le_size
  have hstop := h.stop_le_size
  rw [read, if_neg (by omega), dif_pos h.start_le_stop, dif_pos ⟨h.start_isValid, h.stop_isValid⟩]

/-- **An excerpt can be read exactly if it fits.** -/
theorem fits_iff_exists_read : e.Fits ↔ ∃ part, e.read = .ok part := by
  refine ⟨fun h => ⟨_, read_of_fits h⟩, fun ⟨part, h⟩ => ?_⟩
  unfold read at h
  split at h
  · cases h
  · next hinside =>
    split at h
    · next hle =>
      split at h
      · next hvalid => exact ⟨hle, by omega, hvalid.1, hvalid.2⟩
      · cases h
    · cases h

theorem fits_of_append {front back : String} (htext : e.text = front ++ part ++ back)
    (hstart : e.start = front.utf8ByteSize) (hstop : e.stop = front.utf8ByteSize + part.utf8ByteSize) : e.Fits where
  start_le_stop := by omega
  stop_le_size := by
    rw [htext, String.utf8ByteSize_append, String.utf8ByteSize_append]
    omega
  start_isValid := String.Pos.Raw.isValid_iff_exists_append.2
    ⟨front, part ++ back, htext.trans String.append_assoc, congrArg String.Pos.Raw.mk hstart⟩
  stop_isValid := String.Pos.Raw.isValid_iff_exists_append.2
    ⟨front ++ part, back, htext, congrArg String.Pos.Raw.mk (hstop.trans String.utf8ByteSize_append.symm)⟩

/-- **What is read** is what stands between the front of the text and its back. -/
theorem read_eq_ok_iff : e.read = .ok part ↔ ∃ front back : String, e.text = front ++ part ++ back ∧
    e.start = front.utf8ByteSize ∧ e.stop = front.utf8ByteSize + part.utf8ByteSize := by
  constructor
  · intro h
    have hfits := fits_iff_exists_read.2 ⟨part, h⟩
    rw [read_of_fits hfits, Except.ok.injEq] at h
    obtain ⟨front, back, hstart, hstop⟩ := String.copy_slice_eq_iff_splits.1 ⟨_, h⟩
    refine ⟨front, back, hstop.eq_append, congrArg String.Pos.Raw.byteIdx hstart.offset_eq_rawEndPos, ?_⟩
    rw [← String.utf8ByteSize_append]
    exact congrArg String.Pos.Raw.byteIdx hstop.offset_eq_rawEndPos
  · rintro ⟨front, back, htext, hstart, hstop⟩
    have hfits := fits_of_append htext hstart hstop
    obtain ⟨_, hpart⟩ : ∃ hle, (e.text.slice ⟨_, hfits.start_isValid⟩ ⟨_, hfits.stop_isValid⟩ hle).copy = part :=
      String.copy_slice_eq_iff_splits.2 ⟨front, back,
        ⟨htext.trans String.append_assoc, congrArg String.Pos.Raw.mk hstart⟩,
        ⟨htext, congrArg String.Pos.Raw.mk (hstop.trans String.utf8ByteSize_append.symm)⟩⟩
    rw [read_of_fits hfits, hpart]

/-! ## Without the first byte -/

theorem utf8ByteSize_cons (c : Char) (text : List Char) :
    (String.ofList (c :: text)).utf8ByteSize = c.utf8Size + (String.ofList text).utf8ByteSize := by
  rw [String.ofList_cons, String.utf8ByteSize_append, String.utf8ByteSize_singleton]

theorem exists_eq_singleton (h : text.utf8ByteSize = 1) : ∃ c, text = String.singleton c ∧ c.utf8Size = 1 := by
  obtain ⟨chars, rfl⟩ : ∃ chars, text = String.ofList chars := ⟨text.toList, String.ofList_toList.symm⟩
  cases chars with
  | nil => cases h
  | cons c rest =>
    have hpos := c.utf8Size_pos
    rw [utf8ByteSize_cons] at h
    have hrest : String.ofList rest = "" := String.utf8ByteSize_eq_zero_iff.1 (by omega)
    exact ⟨c, by rw [String.ofList_cons, hrest, String.append_empty], by omega⟩

/-- **A text can be read without its first byte** exactly if that is a character. -/
theorem read_behindFirst_eq_ok_iff : (behindFirst text).read = .ok part ↔
    ∃ c, text = String.singleton c ++ part ∧ c.utf8Size = 1 := by
  rw [read_eq_ok_iff]
  constructor
  · rintro ⟨front, back, htext, hstart, hstop⟩
    obtain ⟨c, rfl, hc⟩ := exists_eq_singleton hstart.symm
    have hsize := congrArg String.utf8ByteSize htext
    simp only [behindFirst, String.utf8ByteSize_append] at hstop hsize
    obtain rfl : back = "" := String.utf8ByteSize_eq_zero_iff.1 (by omega)
    exact ⟨c, htext.trans String.append_empty, hc⟩
  · rintro ⟨c, rfl, hc⟩
    refine ⟨String.singleton c, "", String.append_empty.symm, ?_, ?_⟩
    · simp [behindFirst, hc]
    · simp [behindFirst]

/-- **A text can be read without its first byte and its last** exactly if these are two characters. -/
theorem read_inside_eq_ok_iff : (inside text).read = .ok part ↔
    ∃ c d, text = String.singleton c ++ part ++ String.singleton d ∧ c.utf8Size = 1 ∧ d.utf8Size = 1 := by
  rw [read_eq_ok_iff]
  constructor
  · rintro ⟨front, back, htext, hstart, hstop⟩
    obtain ⟨c, rfl, hc⟩ := exists_eq_singleton hstart.symm
    have hsize := congrArg String.utf8ByteSize htext
    simp only [inside, String.utf8ByteSize_append] at hstart hstop hsize
    have hback : back.utf8ByteSize = 1 := by omega
    obtain ⟨d, rfl, hd⟩ := exists_eq_singleton hback
    exact ⟨c, d, htext, hc, hd⟩
  · rintro ⟨c, d, rfl, hc, hd⟩
    refine ⟨String.singleton c, String.singleton d, rfl, ?_, ?_⟩
    · simp [inside, hc]
    · simp [inside, hd]

/-- Of a lone quote nothing is inside, and a first character of two bytes is not taken off by one. -/
example : (inside "\"").read = .error .reversed ∧ (behindFirst "éa").read = .error .insideCharacter := by
  constructor <;> cbv

end Excerpt
end LineShell
