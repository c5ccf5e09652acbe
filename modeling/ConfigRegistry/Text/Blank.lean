set_option autoImplicit false

/-!
White space of Unicode text, and cutting it from both ends of a text.
-/
namespace ConfigRegistry.Text

def blankRuns : List (Nat × Nat) :=
  [(0x09, 0x0D), (0x20, 0x20), (0x85, 0x85), (0xA0, 0xA0), (0x1680, 0x1680), (0x2000, 0x200A),
   (0x2028, 0x2029), (0x202F, 0x202F), (0x205F, 0x205F), (0x3000, 0x3000)]

def isBlank (c : Char) : Bool := blankRuns.any fun run => run.1 ≤ c.toNat && c.toNat ≤ run.2

def trimWhere (drop : Char → Bool) (chars : List Char) : List Char :=
  ((chars.dropWhile drop).reverse.dropWhile drop).reverse

def trimChars : List Char → List Char := trimWhere isBlank

def trim (text : String) : String := String.ofList (trimChars text.toList)

def isBlankText (text : String) : Bool := text.toList.all isBlank

def splitAtChar (mark : Char) : List Char → List (List Char)
  | [] => [[]]
  | c :: rest =>
      match splitAtChar mark rest with
      | [] => [[]]
      | piece :: pieces => if c = mark then [] :: piece :: pieces else (c :: piece) :: pieces

end ConfigRegistry.Text
