import WheelInstaller.Deflate.Huffman

/-! The codes of compressed blocks. A block uses codes that are always the same, or brings its own:
the lengths of their words, run-length coded, in words of a third code. -/

namespace WheelInstaller.Deflate

/-- The codes of a compressed block. -/
structure BlockCodes where
  literals : PrefixCode
  distances : PrefixCode

/-- The shortest length and the number of extra bits of each length symbol, from 257 on. -/
def lengthRules : List (Nat × Nat) :=
  [(3, 0), (4, 0), (5, 0), (6, 0), (7, 0), (8, 0), (9, 0), (10, 0), (11, 1), (13, 1), (15, 1),
   (17, 1), (19, 2), (23, 2), (27, 2), (31, 2), (35, 3), (43, 3), (51, 3), (59, 3), (67, 4),
   (83, 4), (99, 4), (115, 4), (131, 5), (163, 5), (195, 5), (227, 5), (258, 0)]

/-- The shortest distance and the number of extra bits of each distance symbol. -/
def distanceRules : List (Nat × Nat) :=
  [(1, 0), (2, 0), (3, 0), (4, 0), (5, 1), (7, 1), (9, 2), (13, 2), (17, 3), (25, 3), (33, 4),
   (49, 4), (65, 5), (97, 5), (129, 6), (193, 6), (257, 7), (385, 7), (513, 8), (769, 8),
   (1025, 9), (1537, 9), (2049, 10), (3073, 10), (4097, 11), (6145, 11), (8193, 12), (12289, 12),
   (16385, 13), (24577, 13)]

def endOfBlock : Nat := 256

/-- The codes of a block that brings none of its own. -/
def fixedCodes : BlockCodes where
  literals := .ofLengths (List.replicate 144 8 ++ List.replicate 112 9 ++
    List.replicate 24 7 ++ List.replicate 8 8)
  distances := .ofLengths (List.replicate 32 5)

/-- The value of a symbol with extra bits. -/
def readByRule (rules : List (Nat × Nat)) (symbol : Nat) (bits : Bits) :
    Except Stop (Nat × Bits) :=
  match rules[symbol]? with
  | none => .error .invalid
  | some (base, extra) => do
    let (offset, rest) ← takeNumber extra bits
    return (base + offset, rest)

theorem left_of_readByRule {rules : List (Nat × Nat)} {symbol value : Nat} {bits rest : Bits}
    (found : readByRule rules symbol bits = .ok (value, rest)) : rest.left ≤ bits.left := by
  simp only [readByRule, bind, Except.bind, pure, Except.pure] at found
  split at found
  · cases found
  · split at found
    · cases found
    · rename_i pair taken
      cases found
      have := left_of_takeNumber taken
      omega

def readDistance (code : PrefixCode) (bits : Bits) : Except Stop (Nat × Bits) := do
  let (symbol, rest) ← code.read bits
  readByRule distanceRules symbol rest

theorem left_of_readDistance {code : PrefixCode} {value : Nat} {bits rest : Bits}
    (found : readDistance code bits = .ok (value, rest)) : rest.left ≤ bits.left := by
  simp only [readDistance, bind, Except.bind] at found
  split at found
  · cases found
  · rename_i pair symbol
    have := PrefixCode.left_of_read symbol
    have := left_of_readByRule found
    omega

/-- The order in which the lengths of the code for code lengths are stored. -/
def lengthOrder : List Nat :=
  [16, 17, 18, 0, 8, 7, 9, 6, 10, 5, 11, 4, 12, 3, 13, 2, 14, 1, 15]

/-- The next `count` numbers of three bits each. -/
def readTriples : Nat → Bits → Except Stop (List Nat × Bits)
  | 0, bits => .ok ([], bits)
  | count + 1, bits => do
    let (value, rest) ← takeNumber 3 bits
    let (values, rest) ← readTriples count rest
    return (value :: values, rest)

theorem left_of_readTriples {count : Nat} {values : List Nat} {bits rest : Bits}
    (found : readTriples count bits = .ok (values, rest)) : rest.left ≤ bits.left := by
  induction count generalizing values bits with
  | zero => cases found; exact Nat.le_refl _
  | succ count ih =>
    simp only [readTriples, bind, Except.bind, pure, Except.pure] at found
    split at found
    · cases found
    · rename_i first taken
      split at found
      · cases found
      · rename_i others later
        cases found
        have := left_of_takeNumber taken
        have := ih later
        omega

/-- The code for code lengths. An empty one reads every bit as the length zero. -/
def lengthCode (stored : List Nat) : Except Stop PrefixCode :=
  let lengths := (List.range 19).map fun symbol =>
    match lengthOrder.idxOf? symbol with
    | some place => stored.getD place 0
    | none => 0
  if lengths.all (· = 0) then .ok ⟨[2], #[0, 0]⟩
  else
    let code := PrefixCode.ofLengths lengths
    if code.isComplete then .ok code else .error .invalid

/-- What a symbol of the code for code lengths says: how many copies of which length. -/
def readRun (symbol : Nat) (previous : Option Nat) (bits : Bits) :
    Except Stop ((Nat × Nat) × Bits) :=
  if symbol < 16 then .ok ((1, symbol), bits)
  else if symbol = 16 then do
    let (extra, rest) ← takeNumber 2 bits
    match previous with
    | none => .error .invalid
    | some length => return ((3 + extra, length), rest)
  else if symbol = 17 then do
    let (extra, rest) ← takeNumber 3 bits
    return ((3 + extra, 0), rest)
  else do
    let (extra, rest) ← takeNumber 7 bits
    return ((11 + extra, 0), rest)

theorem left_of_readRun {symbol : Nat} {previous : Option Nat} {run : Nat × Nat}
    {bits rest : Bits} (found : readRun symbol previous bits = .ok (run, rest)) :
    rest.left ≤ bits.left := by
  simp only [readRun, bind, Except.bind, pure, Except.pure] at found
  split at found
  · cases found
    exact Nat.le_refl _
  · split at found
    · split at found
      · cases found
      · rename_i pair taken
        have := left_of_takeNumber taken
        split at found
        · cases found
        · cases found
          omega
    · split at found
      · split at found
        · cases found
        · rename_i pair taken
          have := left_of_takeNumber taken
          cases found
          omega
      · split at found
        · cases found
        · rename_i pair taken
          have := left_of_takeNumber taken
          cases found
          omega

/-- Reads code lengths, the latest first, until `missing` of them are there; a run must not
go beyond. `rounds` bounds the number of runs, each of which brings at least one length. -/
def readLengths (code : PrefixCode) :
    (rounds missing : Nat) → List Nat → Bits → Except Stop (List Nat × Bits)
  | _, 0, latest, bits => .ok (latest.reverse, bits)
  | 0, _ + 1, _, _ => .error .invalid
  | rounds + 1, missing, latest, bits => do
    let (symbol, rest) ← code.read bits
    let ((count, length), rest) ← readRun symbol latest.head? rest
    if missing < count then .error .invalid
    else readLengths code rounds (missing - count) (List.replicate count length ++ latest) rest

theorem left_of_readLengths {code : PrefixCode} {rounds missing : Nat} {latest lengths : List Nat}
    {bits rest : Bits} (found : readLengths code rounds missing latest bits = .ok (lengths, rest)) :
    rest.left ≤ bits.left := by
  fun_induction readLengths code rounds missing latest bits with
  | case1 => cases found; exact Nat.le_refl _
  | case2 => cases found
  | case3 rounds missing latest bits _ ih =>
    simp only [bind, Except.bind] at found
    split at found
    · cases found
    · rename_i symbol read
      split at found
      · cases found
      · rename_i run taken
        have := PrefixCode.left_of_read read
        have := left_of_readRun taken
        split at found
        · cases found
        · have := ih _ _ _ found
          omega

/-- The codes that a block brings along. -/
def readCodes (bits : Bits) : Except Stop (BlockCodes × Bits) := do
  let (sizes, rest) ← takeNumber 14 bits
  let literalCount := sizes % 32 + 257
  let distanceCount := sizes / 32 % 32 + 1
  let storedCount := sizes / 1024 + 4
  if literalCount > 286 || distanceCount > 30 then .error .invalid
  else do
    let (stored, rest) ← readTriples storedCount rest
    let code ← lengthCode stored
    let total := literalCount + distanceCount
    let (lengths, rest) ← readLengths code total total [] rest
    if lengths.getD endOfBlock 0 = 0 then .error .invalid
    else
      let codes : BlockCodes :=
        ⟨.ofLengths (lengths.take literalCount), .ofLengths (lengths.drop literalCount)⟩
      if codes.literals.isUsable && codes.distances.isUsable then return (codes, rest)
      else .error .invalid

theorem left_of_readCodes {codes : BlockCodes} {bits rest : Bits}
    (found : readCodes bits = .ok (codes, rest)) : rest.left ≤ bits.left := by
  simp only [readCodes, bind, Except.bind, pure, Except.pure] at found
  split at found
  · cases found
  · rename_i sizes taken
    have := left_of_takeNumber taken
    split at found
    · cases found
    · split at found
      · cases found
      · rename_i stored triples
        have := left_of_readTriples triples
        split at found
        · cases found
        · split at found
          · cases found
          · rename_i lengths read
            have := left_of_readLengths read
            split at found
            · cases found
            · split at found
              · cases found
                omega
              · cases found

end WheelInstaller.Deflate
