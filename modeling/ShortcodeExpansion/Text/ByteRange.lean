import ShortcodeExpansion.Text.CharSet

/-!
# Characters as ranges of bytes

In UTF-8 a character takes one to four bytes: a leading byte, which also tells how many follow, and
continuation bytes of six bits each.  The encodings of a range of characters are the byte strings
that some run of byte ranges allows, place by place, and `CodeRange.byteRuns` gives the fewest such
runs, in ascending order.
-/

set_option autoImplicit false

namespace ShortcodeExpansion

/-- The bytes from `lo` to `hi`, both ends included. -/
structure ByteRange where
  lo : Nat
  hi : Nat
deriving DecidableEq, Repr, Inhabited

/-- What each byte of an encoding may be, from the leading byte on. -/
abbrev ByteRun := List ByteRange

namespace ByteRange

def single (byte : Nat) : ByteRange := ⟨byte, byte⟩

/-- Every byte that may follow a leading byte. -/
def continuation : ByteRange := ⟨0x80, 0xBF⟩

/-- The runs for the numbers from `lo` to `hi`, written as one digit with `mark` added to it and a
number of continuation bytes.  Where the first digits differ, the numbers that share the first digit
of `lo` or of `hi` without being all of that kind are split off. -/
def runs (mark : Nat) : Nat → Nat → Nat → List ByteRun
  | 0, lo, hi => [[⟨mark + lo, mark + hi⟩]]
  | count + 1, lo, hi =>
      let unit := 64 ^ (count + 1)
      let first := lo / unit
      let last := hi / unit
      if first = last then
        (runs 0x80 count (lo % unit) (hi % unit)).map (single (mark + first) :: ·)
      else
        let head :=
          if lo % unit = 0 then []
          else (runs 0x80 count (lo % unit) (unit - 1)).map (single (mark + first) :: ·)
        let tail :=
          if hi % unit = unit - 1 then []
          else (runs 0x80 count 0 (hi % unit)).map (single (mark + last) :: ·)
        let start := if lo % unit = 0 then first else first + 1
        let stop := if hi % unit = unit - 1 then last + 1 else last
        let middle :=
          if start < stop then
            [⟨mark + start, mark + stop - 1⟩ :: List.replicate (count + 1) continuation]
          else []
        head ++ middle ++ tail

end ByteRange

/-- The lengths of encodings: the first and last code point of a length, the mark of its leading
byte, and the number of bytes that follow. -/
def encodingLengths : List (CodeRange × Nat × Nat) :=
  [(⟨0, 0x7F⟩, 0, 0), (⟨0x80, 0x7FF⟩, 0xC0, 1), (⟨0x800, 0xFFFF⟩, 0xE0, 2),
    (⟨0x10000, CharSet.maxCode⟩, 0xF0, 3)]

/-- The runs of bytes that encode the code points of a range. -/
def CodeRange.byteRuns (r : CodeRange) : List ByteRun :=
  encodingLengths.flatMap fun (span, mark, count) =>
    let lo := max r.lo span.lo
    let hi := min r.hi span.hi
    if lo ≤ hi then ByteRange.runs mark count lo hi else []

/-- The runs of bytes that encode the members of a set. -/
def CharSet.byteRuns (s : CharSet) : List ByteRun := s.ranges.flatMap CodeRange.byteRuns

/-- Runs put together by their first range: that range, and what follows it in neighbouring runs
that start with it. -/
def ByteRun.branches : List ByteRun → List (ByteRange × List ByteRun)
  | [] => []
  | [] :: others => branches others
  | (first :: rest) :: others =>
      match branches others with
      | [] => [(first, [rest])]
      | (next, following) :: more =>
          if first = next then (first, rest :: following) :: more
          else (first, [rest]) :: (next, following) :: more

end ShortcodeExpansion
