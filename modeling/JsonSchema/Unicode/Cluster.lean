import JsonSchema.Unicode.RangeSet

/-!
Extended grapheme clusters: what a reader takes for one character. A text falls into clusters between characters where
no rule holds them together; one pass finds the boundaries from the class of each character and what came before it.
-/
namespace JsonSchema.Unicode

/-- Controls other than carriage return and line feed. -/
def controls : RangeSet := .decode [
  "09111HYVX0D0XhE0alH0X_S021O6XHFXtqF0dGBjXKFXYZ03bcF7uhq5VZ0ZVdGZmF"]

def extenders : RangeSet := .decode [
  "u0ZFeJ6e7XC10111110Y8AXGKG0Z56252113X30UQYRAXQ890O3181214XB2XR8XAN1VXN010474036A1T0XQ010238090A1Q021XP04141223",
  "0U130B1XP0441140K1M510XQ011138072A1U0XR010C090X8030XN012521371B1T0XQ02110321371B1S1XP110238090A1T0Y8040221080Y",
  "H026C7Z2028B6Y91R01010XND14115A1X390Z63151121P142G3D02160F0rV2zI3S2T1U1Y0116802A90XD210ZL1X20ZM2419062cR120XQ0",
  "161010276920XGXD2BK3XG942X68C1X0325XO0113014XO721aO21C16406031c6XVmC0c3X0Y_U2aD0Z0VnA5Z91zkK319X01YG1eG03040P1",
  "50aN1QHD0X67PA10XC2XG0232120X40Y352121C080XF0XJ012215110XA180dE02040pvG0t1FGFhE1oT0d20aL4Xq621153X8240b51nT3Y1",
  "4fT1YD5Y6AXH3ZR0XMEX9021A2XH32170XT2X4417XU0C1XK8108320YV2236020aT037L1XP11010C090E634Y30251020124210E1YL72210",
  "N0YH02510201111dB0236111R1YL72011ZA01027Z50102314e3811dL0A340aG32140X09X8523809522XEC11c601210c961510YIL261111",
  "ZQ530111610Y813010gR1B1XK452N0bd506Ehc8B32Yk04XR6XWO0XV3YH0B1pbB1ap1XD2MmU4358726U3aK2XzRXM4XH80E0M41EXgG61G26",
  "1114Z40b06hN0XT3lS3dU1dJ0207150kQ6ZD6YrG4uZX0YVa0dF"]

/-- Characters that begin the cluster of the next character. -/
def prepended : RangeSet := .decode [
  "Xm05cN0XH0i01YG0XZB0YWxE0F0dK1mD0XhD010g25rS0jR0"]

/-- Spacing marks that continue a cluster. -/
def spacingMarks : RangeSet := .decode [
  "Ye30XN0228311XI1XR16121XM0XQ2Y20XQ28011XL1XS06121ZI0113212XK2XT3XT1XQ02011XE0E1XR15212XL1YC166J1XV0ZV0aA1XV0bH",
  "091P1XC0XvH07711gQ3224115d01XQ010L5aH0XP3Y00U041XV02210XL781bB0L0XYvB120YO1XIFaE0XG0XG14121ZF121O0aT02150dD111",
  "1110vWJ010ZV0XD241ZJ0O1XR0XG290E0YT231bC2V1XR0132121L1YL1F011Z728130ZB160111020dE16320ZH28110ZD011ZE070e5290dO",
  "4117010aE28340YK0T1XU0c903010c70E0ZA07020cL44110gU1C0XG181mlA2Zn4XM"]

def conjunctConsonants : RangeSet := .decode [
  "YeLX4U7O7LJ161033X2110G1b3J161114XV0RJ161114X2110H0b3J1FU2bQX5s5XAK0G5433031724CC0XtHXJpCXKbM16X0H7XMTD1B2XZkB",
  "23X3XD428A4Z1F126031Z0AcLQtn50F3121SXsDX3T020nO910201X5XgA62027111NcG0AX7T0BX7Xa0C1X1"]

def conjunctLinkers : RangeSet := .decode [
  "YgD0ZV0dV0ZV0dV0dV0tB0XyO0qD0d30Z60XZmK0fL0tw80XtJ0qS0XhD0e80YH0Xb80"]

def conjunctExtenders : RangeSet := .decode [
  "u0ZFeJ6e7XC10111110Y8AXGKG0Z56252113X30UQYRAXQ890O3181214XB2XR8XAN1VXN0104786A1T0XQ01023I0A1Q021XP041412230U13",
  "0B1XP04411P1M510XQ01113G2A1U0XR010C090X8030XN012521281B1T0XQ02110321371B1S1XP11023I0A1T0Y8040221080YH026C7Z202",
  "8B6Y91R01010XND14115A1X390Z63152021P142G3D02160F0rV2zI3S2T1U1Y011680281090XD210ZL1X20ZM2419062cR120XQ016302769",
  "20XGXD2BK3XG941X78C1X032211XO0113014XO721aO21C16406031c6XVmD0c2X0Y_U2aD0Z0VnA5Z91zkK319X01YG1eG03040P150aN1QHD",
  "0X67PA10XC2XG02321X70Y352121C080XF0XJ012215110XA1dN02040pvG0t1FGFhE1oT0d20aL4Xq621153X82bA1nT3Y14fT1YD5Y6AXH3Z",
  "R0XMEX9021A2XH32170XT2X441510XU0C1XK8108320YV2236020aT037L1XP11010C090E634Y30251020124120E1YL72210N0YH02510201",
  "111dB0236111R1YL72011ZA01027Z50102314e3811dL0A250aG32140X09X8523I522XEC10c701210c961510YIL261111ZQ530111610Y81",
  "3010gR1B1XK451O0bd506Ehc8B32Yk04XR6XWO0XV3YH0B1pbB1ap1XD2MmU4358726U3aK2XzRXM4XH80E0M41EXgG61G261114Z40b06hN0X",
  "T3lS3dU1dJ0207150kQ6ZD6YrG4uZX0YVa0dF"]

def pictographs : RangeSet := .decode [
  "b9040dyD0C0cO0M0YQ5F1hF1C0b60PA42c70d71A090XQ314902021204020112030318250105BB1201110I021I5101131502141B15120",
  "511011K155132040202510201010603060A1F02040104210B1XG290E0E0hK1kF2J1XJ040XcQ0C0oP010ZlhA0X73Z4BF1F0E1X59ZG1C1",
  "E029JXNREA0K028139M6bR2ZF21122YI22135dT1XUB51N7127C0232041D120819052C28220104060306YLXGY5572G30152CcQX5C3XO7",
  "A5X87U1C32D9X6CXE191bOYO7EaHe0_T"]

/-- The part a character has in a cluster. -/
inductive ClusterClass where
  | carriageReturn
  | lineFeed
  | control
  | extend
  | joiner
  | prepend
  | spacingMark
  | regional
  | leading
  | vowel
  | trailing
  | leadingVowel
  | leadingVowelTrailing
  | other
deriving DecidableEq

def hangulClass (c : Nat) : ClusterClass :=
  if (0x1100 ≤ c && c ≤ 0x115f) || (0xa960 ≤ c && c ≤ 0xa97c) then .leading
  else if (0x1160 ≤ c && c ≤ 0x11a7) || (0xd7b0 ≤ c && c ≤ 0xd7c6) || c == 0x16d63 || (0x16d67 ≤ c && c ≤ 0x16d6a) then
    .vowel
  else if (0x11a8 ≤ c && c ≤ 0x11ff) || (0xd7cb ≤ c && c ≤ 0xd7fb) then .trailing
  else if 0xac00 ≤ c && c ≤ 0xd7a3 then (if (c - 0xac00) % 28 == 0 then .leadingVowel else .leadingVowelTrailing)
  else .other

def clusterClass (c : Nat) : ClusterClass :=
  if c == 0x0d then .carriageReturn
  else if c == 0x0a then .lineFeed
  else if 0x20 ≤ c && c < 0x7f then .other
  else if c == 0x200d then .joiner
  else if controls.contains c then .control
  else if extenders.contains c then .extend
  else if prepended.contains c then .prepend
  else if spacingMarks.contains c then .spacingMark
  else if 0x1f1e6 ≤ c && c ≤ 0x1f1ff then .regional
  else hangulClass c

/-- How far a sequence of two consonants with a linker between them has come. -/
inductive Conjunct where
  | none
  | consonant
  | linked
deriving DecidableEq

/-- What the characters so far leave behind for the next boundary. -/
structure ClusterState where
  last : ClusterClass
  /-- A pictograph and nothing but extenders after it. -/
  pictograph : Bool
  /-- Such a sequence with a joiner at its end. -/
  joined : Bool
  conjunct : Conjunct
  /-- An odd number of regional indicators at the end. -/
  oddRegional : Bool

/-- The state after a character at which a new count of everything begins. -/
def ClusterState.after (previous : Option ClusterState) (c : Nat) : ClusterState :=
  let kind := clusterClass c
  let pictograph := pictographs.contains c
  let extended := previous.any (·.pictograph)
  let conjunct := (previous.map (·.conjunct)).getD .none
  { last := kind
    pictograph := pictograph || (kind == .extend && extended)
    joined := kind == .joiner && extended
    conjunct :=
      if conjunctConsonants.contains c then .consonant
      else if conjunct == .none then .none
      else if conjunctLinkers.contains c then .linked
      else if conjunctExtenders.contains c then conjunct
      else .none
    oddRegional := kind == .regional && !previous.any (·.oddRegional) }

def ClusterClass.isBreak : ClusterClass → Bool
  | .carriageReturn | .lineFeed | .control => true
  | _ => false

def ClusterClass.joinsHangul : ClusterClass → ClusterClass → Bool
  | .leading, .leading | .leading, .vowel | .leading, .leadingVowel | .leading, .leadingVowelTrailing => true
  | .leadingVowel, .vowel | .leadingVowel, .trailing | .vowel, .vowel | .vowel, .trailing => true
  | .leadingVowelTrailing, .trailing | .trailing, .trailing => true
  | _, _ => false

/-- Whether a cluster ends before the next character. -/
def ClusterState.breaksBefore (state : ClusterState) (c : Nat) : Bool :=
  let next := clusterClass c
  if state.last == .carriageReturn && next == .lineFeed then false
  else if state.last.isBreak || next.isBreak then true
  else if state.last.joinsHangul next then false
  else if next == .extend || next == .joiner || next == .spacingMark || state.last == .prepend then false
  else if state.conjunct == .linked && conjunctConsonants.contains c then false
  else if state.joined && pictographs.contains c then false
  else !(next == .regional && state.oddRegional)

def countClusters (state : ClusterState) : List Nat → Nat
  | [] => 0
  | c :: rest => (if state.breaksBefore c then 1 else 0) + countClusters (.after (some state) c) rest

/-- The number of extended grapheme clusters of a text. -/
def clusterCount (text : String) : Nat :=
  match text.toList.map Char.toNat with
  | [] => 0
  | c :: rest => 1 + countClusters (.after none c) rest

end JsonSchema.Unicode
