/-!
# Blanks

The characters of the Unicode property `White_Space`, and trimming by them.
-/

namespace AlignedStorage

def blankCodes : List Nat :=
  [ 0x9, 0xa, 0xb, 0xc, 0xd, 0x20, 0x85, 0xa0, 0x1680, 0x2000, 0x2001,
    0x2002, 0x2003, 0x2004, 0x2005, 0x2006, 0x2007, 0x2008, 0x2009, 0x200a,
    0x2028, 0x2029, 0x202f, 0x205f, 0x3000 ]

def isBlank (c : Char) : Bool :=
  blankCodes.contains c.toNat

def trimLeft (cs : List Char) : List Char :=
  cs.dropWhile isBlank

def trimRight (cs : List Char) : List Char :=
  (cs.reverse.dropWhile isBlank).reverse

def trim (cs : List Char) : List Char :=
  trimRight (trimLeft cs)

end AlignedStorage
