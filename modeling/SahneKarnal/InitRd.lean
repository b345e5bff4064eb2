import SahneKarnal.Memory

/-!
# The embedded initrd image

`InitRd` gives read-only access to the initrd bytes the x86-64 build embeds. `read_slice(offset,
length)` has two checks before it slices `data[offset..offset + length]`. It refuses a range
that starts past the end. Through `offset.checked_add(length)?` it also refuses one whose end
overflows `usize`.

The image is a `&'static [u8]`, so its length is a `usize`; `InitRd` carries that bound. From it,
`read_slice_exact` gives the exact result: the read succeeds exactly when the range lies within
the image, and then returns the `length` bytes from `offset` on. The overflow check never
refuses a range the length check would accept. `read_slice_append` gives how reads compose:
two adjacent reads, concatenated, are the read of their union.
-/

namespace SahneKarnal

/-- `InitRd`: the image bytes, whose length is a `usize`. -/
structure InitRd where
  data : List UInt8
  size_lt : data.length < 2 ^ 64

namespace InitRd

/-- `get_size`: the length of the image. -/
def getSize (initrd : InitRd) : Nat := initrd.data.length

/-- `read_slice(offset, length)`: `None` when `offset > len`, when `offset + length` overflows
`usize` (the `?` on `checked_add`), or when it is past `len`; otherwise
`Some(&data[offset..offset + length])`. -/
def readSlice (initrd : InitRd) (offset length : Nat) : Option (List UInt8) :=
  if offset > initrd.getSize then none
  else
    match checkedAdd offset length with
    | none => none
    | some finish =>
        if finish > initrd.getSize then none else some ((initrd.data.drop offset).take length)

/-- Both early returns are the one range check `offset + length ≤ len`: a sum within the image
cannot overflow. -/
theorem readSlice_eq (initrd : InitRd) (offset length : Nat) :
    initrd.readSlice offset length =
      if offset + length ≤ initrd.getSize then some ((initrd.data.drop offset).take length)
      else none := by
  have hsize : initrd.getSize < 2 ^ 64 := initrd.size_lt
  unfold readSlice checkedAdd
  by_cases hstart : offset > initrd.getSize
  · rw [if_pos hstart, if_neg (by omega)]
  · rw [if_neg hstart]
    by_cases hfits : offset + length < 2 ^ 64
    · simp only [if_pos hfits]
      by_cases hend : offset + length > initrd.getSize
      · rw [if_pos hend, if_neg (by omega)]
      · rw [if_neg hend, if_pos (by omega)]
    · simp only [if_neg hfits]
      rw [if_neg (by omega)]

/-- `read_slice` succeeds exactly when the range `offset .. offset + length` lies within the
image, and then returns `length` bytes, the `index`-th being the image byte at
`offset + index`. -/
theorem read_slice_exact (initrd : InitRd) (offset length : Nat) (bytes : List UInt8) :
    initrd.readSlice offset length = some bytes ↔
      offset + length ≤ initrd.getSize ∧ bytes.length = length ∧
        ∀ index < length, bytes[index]? = initrd.data[offset + index]? := by
  rw [readSlice_eq]
  by_cases hrange : offset + length ≤ initrd.getSize
  · have hlength : ((initrd.data.drop offset).take length).length = length := by
      rw [List.length_take, List.length_drop]
      exact Nat.min_eq_left (by unfold getSize at hrange; omega)
    rw [if_pos hrange, Option.some.injEq]
    constructor
    · rintro rfl
      exact ⟨hrange, hlength, fun index hindex => by
        rw [List.getElem?_take_of_lt hindex, List.getElem?_drop]⟩
    · rintro ⟨-, hbytes, hget⟩
      refine List.ext_getElem? fun index => ?_
      by_cases hindex : index < length
      · rw [List.getElem?_take_of_lt hindex, List.getElem?_drop, hget index hindex]
      · rw [List.getElem?_eq_none (by omega), List.getElem?_eq_none (by omega)]
  · rw [if_neg hrange]
    simp [hrange]

/-- Reading `first` bytes at `offset` and then `second` bytes right after them, and joining the
two, is reading `first + second` bytes at `offset`: both fail exactly when the joint range does
not fit. -/
theorem read_slice_append (initrd : InitRd) (offset first second : Nat) :
    (initrd.readSlice offset first >>= fun head =>
        (initrd.readSlice (offset + first) second).map (head ++ ·)) =
      initrd.readSlice offset (first + second) := by
  simp only [readSlice_eq]
  by_cases hjoint : offset + (first + second) ≤ initrd.getSize
  · rw [if_pos (by omega), if_pos (by omega), if_pos hjoint]
    simp only [Option.bind_eq_bind, Option.some_bind, Option.map_some', List.take_add,
      List.drop_drop]
  · rw [if_neg hjoint]
    by_cases hhead : offset + first ≤ initrd.getSize
    · rw [if_pos hhead, if_neg (by omega)]
      rfl
    · rw [if_neg hhead]
      rfl

end InitRd

end SahneKarnal
