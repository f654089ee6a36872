/-!
# White space at the ends of a text

`Text.trim` removes the characters of the Unicode property `White_Space` from both ends of a text.
`Text.trimFront` stops at the first character that is no blank (`trimFront_cons_of_not_blank`).
-/

namespace RequestPipeline.Text

/-- the characters of the Unicode property `White_Space` -/
def isBlank (c : Char) : Bool :=
  let n := c.toNat
  (9 ≤ n && n ≤ 13) || n == 0x20 || n == 0x85 || n == 0xA0 || n == 0x1680 ||
    (0x2000 ≤ n && n ≤ 0x200A) || n == 0x2028 || n == 0x2029 || n == 0x202F || n == 0x205F ||
    n == 0x3000

def trimFront (cs : List Char) : List Char := cs.dropWhile isBlank

def trimBack (cs : List Char) : List Char := (cs.reverse.dropWhile isBlank).reverse

/-- removes the blanks at both ends -/
def trimChars (cs : List Char) : List Char := trimBack (trimFront cs)

def trim (s : String) : String := String.ofList (trimChars s.toList)

theorem trimFront_cons_of_not_blank {c : Char} (h : isBlank c = false) (cs : List Char) :
    trimFront (c :: cs) = c :: cs := by
  simp [trimFront, h]

theorem trimFront_of_not_blank {cs : List Char} (h : ∀ c ∈ cs, isBlank c = false) :
    trimFront cs = cs := by
  cases cs with
  | nil => rfl
  | cons c cs => exact trimFront_cons_of_not_blank (h c List.mem_cons_self) cs

theorem trimChars_of_not_blank {cs : List Char} (h : ∀ c ∈ cs, isBlank c = false) :
    trimChars cs = cs := by
  have hr : trimFront cs.reverse = cs.reverse :=
    trimFront_of_not_blank fun c hc => h c (List.mem_reverse.mp hc)
  unfold trimChars trimBack
  rw [trimFront_of_not_blank h]
  show (trimFront cs.reverse).reverse = cs
  rw [hr, List.reverse_reverse]

end RequestPipeline.Text
