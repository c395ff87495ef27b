import CredentialStore.Text.Basic

namespace CredentialStore.MD5

/-- The four words that the blocks of a message are mixed into. -/
structure State where
  a : UInt32
  b : UInt32
  c : UInt32
  d : UInt32
  deriving DecidableEq, Repr

def State.initial : State := ⟨0x67452301, 0xefcdab89, 0x98badcfe, 0x10325476⟩

/-- The constants of the steps: the first thirty-two bits of the sines of 1 to 64, signs dropped. -/
def sines : List UInt32 :=
  [0xd76aa478, 0xe8c7b756, 0x242070db, 0xc1bdceee, 0xf57c0faf, 0x4787c62a, 0xa8304613, 0xfd469501,
   0x698098d8, 0x8b44f7af, 0xffff5bb1, 0x895cd7be, 0x6b901122, 0xfd987193, 0xa679438e, 0x49b40821,
   0xf61e2562, 0xc040b340, 0x265e5a51, 0xe9b6c7aa, 0xd62f105d, 0x02441453, 0xd8a1e681, 0xe7d3fbc8,
   0x21e1cde6, 0xc33707d6, 0xf4d50d87, 0x455a14ed, 0xa9e3e905, 0xfcefa3f8, 0x676f02d9, 0x8d2a4c8a,
   0xfffa3942, 0x8771f681, 0x6d9d6122, 0xfde5380c, 0xa4beea44, 0x4bdecfa9, 0xf6bb4b60, 0xbebfbc70,
   0x289b7ec6, 0xeaa127fa, 0xd4ef3085, 0x04881d05, 0xd9d4d039, 0xe6db99e5, 0x1fa27cf8, 0xc4ac5665,
   0xf4292244, 0x432aff97, 0xab9423a7, 0xfc93a039, 0x655b59c3, 0x8f0ccc92, 0xffeff47d, 0x85845dd1,
   0x6fa87e4f, 0xfe2ce6e0, 0xa3014314, 0x4e0811a1, 0xf7537e82, 0xbd3af235, 0x2ad7d2bb, 0xeb86d391]

/-- The rotations of the steps, four of them in turn in each round of sixteen. -/
def rotations : List UInt32 :=
  [[7, 12, 17, 22], [5, 9, 14, 20], [4, 11, 16, 23], [6, 10, 15, 21]].flatMap fun round =>
    round ++ round ++ round ++ round

/-- The word of the block that a step takes. -/
def wordIndex (step : Nat) : Nat :=
  if step < 16 then step
  else if step < 32 then (5 * step + 1) % 16
  else if step < 48 then (3 * step + 5) % 16
  else 7 * step % 16

def mix (step : Nat) (b c d : UInt32) : UInt32 :=
  if step < 16 then (b &&& c) ||| (~~~b &&& d)
  else if step < 32 then (d &&& b) ||| (~~~d &&& c)
  else if step < 48 then b ^^^ c ^^^ d
  else c ^^^ (b ||| ~~~d)

/-- A word with its bits moved left, those that fall out entering on the right. -/
def rotateLeft (word amount : UInt32) : UInt32 :=
  (word <<< amount) ||| (word >>> (32 - amount))

/-- One step on a block of sixteen words. -/
def advance (block : List UInt32) (s : State) (step : Nat × UInt32 × UInt32) : State :=
  let (index, sine, rotation) := step
  let sum := s.a + mix index s.b s.c s.d + sine + block.getD (wordIndex index) 0
  ⟨s.d, s.b + rotateLeft sum rotation, s.b, s.c⟩

/-- The steps with their constants, in order. -/
def steps : List (Nat × UInt32 × UInt32) := (List.range 64).zip (sines.zip rotations)

def State.absorb (s : State) (block : List UInt32) : State :=
  let t := steps.foldl (advance block) s
  ⟨s.a + t.a, s.b + t.b, s.c + t.c, s.d + t.d⟩

/-- The word of four octets, the lowest first. -/
def word (b0 b1 b2 b3 : UInt8) : UInt32 :=
  b0.toUInt32 ||| (b1.toUInt32 <<< 8) ||| (b2.toUInt32 <<< 16) ||| (b3.toUInt32 <<< 24)

/-- The words of octets taken four at a time; fewer than four at the end make no word. -/
def words : Bytes → List UInt32
  | b0 :: b1 :: b2 :: b3 :: rest => word b0 b1 b2 b3 :: words rest
  | _ => []

/-- The last `count` octets of a number, the lowest first. -/
def octets : (count : Nat) → Nat → Bytes
  | 0, _ => []
  | count + 1, n => UInt8.ofNat n :: octets count (n / 256)

/-- A message followed by a one bit, zeros and its length in bits, to a multiple of 64 octets. -/
def padded (message : Bytes) : Bytes :=
  message ++ [0x80] ++ List.replicate ((119 - message.length % 64) % 64) 0 ++
    octets 8 (8 * message.length)

/-- The blocks of sixteen words of a padded message. -/
def blocks (message : Bytes) : List (List UInt32) :=
  let all := words (padded message)
  (List.range (all.length / 16)).map fun i => (all.drop (16 * i)).take 16

/-- The sixteen octets of a state. -/
def State.octets (s : State) : Bytes :=
  [s.a, s.b, s.c, s.d].flatMap fun word => MD5.octets 4 word.toNat

def digest (message : Bytes) : Bytes :=
  ((blocks message).foldl State.absorb State.initial).octets

/-- As many octets as asked for. -/
theorem length_octets (count n : Nat) : (octets count n).length = count := by
  induction count generalizing n with
  | zero => rfl
  | succ count ih => simp [octets, ih]

/-- A digest has sixteen octets whatever the message. -/
theorem length_digest (message : Bytes) : (digest message).length = 16 := by
  simp [digest, State.octets, length_octets]

end CredentialStore.MD5
