import FramedRpc.Text.Wide

namespace FramedRpc.Text

-- Letters that end in an upright stroke, which a lam before them takes in.
def alefRanges : Ranges := #[
  (0x622, 0x623), (0x625, 0x625), (0x627, 0x627), (0x671, 0x673), (0x675, 0x675), (0x773, 0x774),
  (0x870, 0x882)
]

def lamRanges : Ranges := #[
  (0x644, 0x644), (0x6B5, 0x6B8), (0x76A, 0x76A), (0x8A6, 0x8A6), (0x8C7, 0x8C7)
]

-- Pictures of people and hands, which can be given a tone of skin.
def figureRanges : Ranges := #[
  (0x261D, 0x261D), (0x26F9, 0x26F9), (0x270A, 0x270D), (0x1F385, 0x1F385), (0x1F3C2, 0x1F3C4),
  (0x1F3C7, 0x1F3C7), (0x1F3CA, 0x1F3CC), (0x1F442, 0x1F443), (0x1F446, 0x1F450),
  (0x1F466, 0x1F478), (0x1F47C, 0x1F47C), (0x1F481, 0x1F483), (0x1F485, 0x1F487),
  (0x1F48F, 0x1F48F), (0x1F491, 0x1F491), (0x1F4AA, 0x1F4AA), (0x1F574, 0x1F575),
  (0x1F57A, 0x1F57A), (0x1F590, 0x1F590), (0x1F595, 0x1F596), (0x1F645, 0x1F647),
  (0x1F64B, 0x1F64F), (0x1F6A3, 0x1F6A3), (0x1F6B4, 0x1F6B6), (0x1F6C0, 0x1F6C0),
  (0x1F6CC, 0x1F6CC), (0x1F90C, 0x1F90C), (0x1F90F, 0x1F90F), (0x1F918, 0x1F91F),
  (0x1F926, 0x1F926), (0x1F930, 0x1F939), (0x1F93C, 0x1F93E), (0x1F977, 0x1F977),
  (0x1F9B5, 0x1F9B6), (0x1F9B8, 0x1F9B9), (0x1F9BB, 0x1F9BB), (0x1F9CD, 0x1F9CF),
  (0x1F9D1, 0x1F9DD), (0x1FAC3, 0x1FAC5), (0x1FAF0, 0x1FAF8)
]

inductive Joint where
  | apart
  | alef
  | toneEnd
  | skinTone
  -- The vowel E, and two of them in a row.
  | vowelE
  | vowelEE
  deriving DecidableEq, Repr

def joint (c : Char) : Joint :=
  let n := c.toNat
  if alefRanges.contains c then .alef
  else if n = 0xA4FC ∨ n = 0xA4FD then .toneEnd
  else if 0x1F3FB ≤ n ∧ n ≤ 0x1F3FF then .skinTone
  else if n = 0x16D67 then .vowelE
  else if n = 0x16D68 then .vowelEE
  else .apart

-- The columns that a character adds to what follows it, and what it is to the one before it. Vowels that
-- are written as several signs take the columns of the one sign that stands for all.
def joined (c : Char) (next : Joint) : Nat × Joint :=
  let n := c.toNat
  let alone := (charWidth c, joint c)
  let shared := (0, .apart)
  match next with
  | .apart => alone
  | .alef => if lamRanges.contains c then shared else alone
  | .toneEnd => if 0xA4F8 ≤ n ∧ n ≤ 0xA4FB then shared else alone
  | .skinTone => if figureRanges.contains c then shared else alone
  | .vowelE =>
    if n = 0x16D63 ∨ n = 0x16D69 then shared
    else if n = 0x16D67 then (0, .vowelEE)
    else if n = 0x16D68 then (1, .vowelE)
    else alone
  | .vowelEE => if n = 0x16D63 then shared else alone

def width (s : String) : Nat :=
  (s.toList.foldr (fun c (columns, next) =>
    let (more, joint) := joined c next
    (columns + more, joint)) (0, .apart)).1

example : width "wide" = 4 ∧ width "日本語" = 6 ∧ width "👍🏽" = 2 ∧ width "لا" = 1 := by decide +kernel

end FramedRpc.Text
