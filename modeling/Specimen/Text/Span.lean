namespace Specimen.Text

def splitOn (c : Char) (s : String) : List String := (s.toList.splitOn c).map String.ofList

theorem length_dropWhile_le (p : Char → Bool) (s : List Char) : (s.dropWhile p).length ≤ s.length :=
  (List.dropWhile_suffix p).length_le

theorem length_dropWhile_lt {p : Char → Bool} {s : List Char} (h : s.takeWhile p ≠ []) :
    (s.dropWhile p).length < s.length := by
  have hs : (s.takeWhile p ++ s.dropWhile p).length = s.length := by rw [List.takeWhile_append_dropWhile]
  have := List.length_pos_iff.2 h
  rw [List.length_append] at hs
  omega

end Specimen.Text
