namespace WireSchema.Text

/-!
Spellings of names.

A letter with a mark can be written as one character or as the letter followed by the mark, and some
letters have variants that differ only in form.  Names that differ in nothing else are one name.
The table takes such letters of the Latin script apart.
-/

/-- Letters with the characters they are taken apart into, by code point. -/
def letterParts : List (Nat × List Nat) :=
  [(0xaa, [0x61]), (0xb5, [0x3bc]), (0xba, [0x6f]), (0xc0, [0x41, 0x300]), (0xc1, [0x41, 0x301]),
   (0xc2, [0x41, 0x302]), (0xc3, [0x41, 0x303]), (0xc4, [0x41, 0x308]), (0xc5, [0x41, 0x30a]),
   (0xc7, [0x43, 0x327]), (0xc8, [0x45, 0x300]), (0xc9, [0x45, 0x301]), (0xca, [0x45, 0x302]),
   (0xcb, [0x45, 0x308]), (0xcc, [0x49, 0x300]), (0xcd, [0x49, 0x301]), (0xce, [0x49, 0x302]),
   (0xcf, [0x49, 0x308]), (0xd1, [0x4e, 0x303]), (0xd2, [0x4f, 0x300]), (0xd3, [0x4f, 0x301]),
   (0xd4, [0x4f, 0x302]), (0xd5, [0x4f, 0x303]), (0xd6, [0x4f, 0x308]), (0xd9, [0x55, 0x300]),
   (0xda, [0x55, 0x301]), (0xdb, [0x55, 0x302]), (0xdc, [0x55, 0x308]), (0xdd, [0x59, 0x301]),
   (0xe0, [0x61, 0x300]), (0xe1, [0x61, 0x301]), (0xe2, [0x61, 0x302]), (0xe3, [0x61, 0x303]),
   (0xe4, [0x61, 0x308]), (0xe5, [0x61, 0x30a]), (0xe7, [0x63, 0x327]), (0xe8, [0x65, 0x300]),
   (0xe9, [0x65, 0x301]), (0xea, [0x65, 0x302]), (0xeb, [0x65, 0x308]), (0xec, [0x69, 0x300]),
   (0xed, [0x69, 0x301]), (0xee, [0x69, 0x302]), (0xef, [0x69, 0x308]), (0xf1, [0x6e, 0x303]),
   (0xf2, [0x6f, 0x300]), (0xf3, [0x6f, 0x301]), (0xf4, [0x6f, 0x302]), (0xf5, [0x6f, 0x303]),
   (0xf6, [0x6f, 0x308]), (0xf9, [0x75, 0x300]), (0xfa, [0x75, 0x301]), (0xfb, [0x75, 0x302]),
   (0xfc, [0x75, 0x308]), (0xfd, [0x79, 0x301]), (0xff, [0x79, 0x308]), (0x100, [0x41, 0x304]),
   (0x101, [0x61, 0x304]), (0x102, [0x41, 0x306]), (0x103, [0x61, 0x306]), (0x104, [0x41, 0x328]),
   (0x105, [0x61, 0x328]), (0x106, [0x43, 0x301]), (0x107, [0x63, 0x301]), (0x108, [0x43, 0x302]),
   (0x109, [0x63, 0x302]), (0x10a, [0x43, 0x307]), (0x10b, [0x63, 0x307]), (0x10c, [0x43, 0x30c]),
   (0x10d, [0x63, 0x30c]), (0x10e, [0x44, 0x30c]), (0x10f, [0x64, 0x30c]), (0x112, [0x45, 0x304]),
   (0x113, [0x65, 0x304]), (0x114, [0x45, 0x306]), (0x115, [0x65, 0x306]), (0x116, [0x45, 0x307]),
   (0x117, [0x65, 0x307]), (0x118, [0x45, 0x328]), (0x119, [0x65, 0x328]), (0x11a, [0x45, 0x30c]),
   (0x11b, [0x65, 0x30c]), (0x11c, [0x47, 0x302]), (0x11d, [0x67, 0x302]), (0x11e, [0x47, 0x306]),
   (0x11f, [0x67, 0x306]), (0x120, [0x47, 0x307]), (0x121, [0x67, 0x307]), (0x122, [0x47, 0x327]),
   (0x123, [0x67, 0x327]), (0x124, [0x48, 0x302]), (0x125, [0x68, 0x302]), (0x128, [0x49, 0x303]),
   (0x129, [0x69, 0x303]), (0x12a, [0x49, 0x304]), (0x12b, [0x69, 0x304]), (0x12c, [0x49, 0x306]),
   (0x12d, [0x69, 0x306]), (0x12e, [0x49, 0x328]), (0x12f, [0x69, 0x328]), (0x130, [0x49, 0x307]),
   (0x132, [0x49, 0x4a]), (0x133, [0x69, 0x6a]), (0x134, [0x4a, 0x302]), (0x135, [0x6a, 0x302]),
   (0x136, [0x4b, 0x327]), (0x137, [0x6b, 0x327]), (0x139, [0x4c, 0x301]), (0x13a, [0x6c, 0x301]),
   (0x13b, [0x4c, 0x327]), (0x13c, [0x6c, 0x327]), (0x13d, [0x4c, 0x30c]), (0x13e, [0x6c, 0x30c]),
   (0x13f, [0x4c, 0xb7]), (0x140, [0x6c, 0xb7]), (0x143, [0x4e, 0x301]), (0x144, [0x6e, 0x301]),
   (0x145, [0x4e, 0x327]), (0x146, [0x6e, 0x327]), (0x147, [0x4e, 0x30c]), (0x148, [0x6e, 0x30c]),
   (0x149, [0x2bc, 0x6e]), (0x14c, [0x4f, 0x304]), (0x14d, [0x6f, 0x304]), (0x14e, [0x4f, 0x306]),
   (0x14f, [0x6f, 0x306]), (0x150, [0x4f, 0x30b]), (0x151, [0x6f, 0x30b]), (0x154, [0x52, 0x301]),
   (0x155, [0x72, 0x301]), (0x156, [0x52, 0x327]), (0x157, [0x72, 0x327]), (0x158, [0x52, 0x30c]),
   (0x159, [0x72, 0x30c]), (0x15a, [0x53, 0x301]), (0x15b, [0x73, 0x301]), (0x15c, [0x53, 0x302]),
   (0x15d, [0x73, 0x302]), (0x15e, [0x53, 0x327]), (0x15f, [0x73, 0x327]), (0x160, [0x53, 0x30c]),
   (0x161, [0x73, 0x30c]), (0x162, [0x54, 0x327]), (0x163, [0x74, 0x327]), (0x164, [0x54, 0x30c]),
   (0x165, [0x74, 0x30c]), (0x168, [0x55, 0x303]), (0x169, [0x75, 0x303]), (0x16a, [0x55, 0x304]),
   (0x16b, [0x75, 0x304]), (0x16c, [0x55, 0x306]), (0x16d, [0x75, 0x306]), (0x16e, [0x55, 0x30a]),
   (0x16f, [0x75, 0x30a]), (0x170, [0x55, 0x30b]), (0x171, [0x75, 0x30b]), (0x172, [0x55, 0x328]),
   (0x173, [0x75, 0x328]), (0x174, [0x57, 0x302]), (0x175, [0x77, 0x302]), (0x176, [0x59, 0x302]),
   (0x177, [0x79, 0x302]), (0x178, [0x59, 0x308]), (0x179, [0x5a, 0x301]), (0x17a, [0x7a, 0x301]),
   (0x17b, [0x5a, 0x307]), (0x17c, [0x7a, 0x307]), (0x17d, [0x5a, 0x30c]), (0x17e, [0x7a, 0x30c]),
   (0x17f, [0x73]), (0x1e0, [0x41, 0x307, 0x304]), (0x1e1, [0x61, 0x307, 0x304]),
   (0x1cd, [0x41, 0x30c]), (0x1ce, [0x61, 0x30c]), (0x1cf, [0x49, 0x30c]), (0x1d0, [0x69, 0x30c]),
   (0x1d1, [0x4f, 0x30c]), (0x1d2, [0x6f, 0x30c]), (0x1d3, [0x55, 0x30c]), (0x1d4, [0x75, 0x30c]),
   (0x1d5, [0x55, 0x308, 0x304]), (0x1d6, [0x75, 0x308, 0x304]), (0x1d7, [0x55, 0x308, 0x301]),
   (0x1d8, [0x75, 0x308, 0x301]), (0x1d9, [0x55, 0x308, 0x30c]), (0x1da, [0x75, 0x308, 0x30c]),
   (0x1db, [0x55, 0x308, 0x300]), (0x1dc, [0x75, 0x308, 0x300]), (0x218, [0x53, 0x326]),
   (0x219, [0x73, 0x326]), (0x21a, [0x54, 0x326]), (0x21b, [0x74, 0x326]), (0x212a, [0x4b]),
   (0x212b, [0x41, 0x30a]), (0x2126, [0x3a9]), (0x2113, [0x6c]), (0xfb00, [0x66, 0x66]),
   (0xfb01, [0x66, 0x69]), (0xfb02, [0x66, 0x6c]), (0xfb03, [0x66, 0x66, 0x69]),
   (0xfb04, [0x66, 0x66, 0x6c]), (0xfb05, [0x73, 0x74]), (0xfb06, [0x73, 0x74])]

/-- Whether a character is a mark that belongs to the letter before it. -/
def isCombiningMark (c : Char) : Bool :=
  0x300 ≤ c.toNat && c.toNat ≤ 0x36f

/-- The plain letter or digit for a wide one. -/
def narrowForm (code : Nat) : Nat :=
  if 0xff10 ≤ code && code ≤ 0xff5a then code - 0xfee0 else code

/-- The characters that a character of a name is taken apart into. -/
def charParts (c : Char) : List Char :=
  match letterParts.find? (·.1 == c.toNat) with
  | some entry => entry.2.map Char.ofNat
  | none => [Char.ofNat (narrowForm c.toNat)]

/-- A name with its letters taken apart, which is the same for all spellings of the name. -/
def plainSpelling (name : String) : String :=
  String.ofList (name.toList.flatMap charParts)

end WireSchema.Text
