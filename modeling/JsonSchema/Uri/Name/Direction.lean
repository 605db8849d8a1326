import JsonSchema.Unicode.RangeSet

/-!
The direction of the labels of a name. Where some label is written from right to left, the characters of each label have
to agree on a direction, so that the labels can be told apart in whatever order they are shown. The tables hold for the
characters that a name can have.
-/
namespace JsonSchema.Uri.Name

def rightToLeft : Unicode.RangeSet := .decode [
  "XjU01020209X4J02010DXFX221Z4F171AM1TTYOBXP91403N4090307X85XHGX9Xyt8GrG0YiCeR4d0FX5Ab46YAAl3X65VX0dGX93QXOY5B",
  "XG4ZGXsW9cFYIX17_I"]

def arabicNumbers : Unicode.RangeSet := .decode [
  "Xp0911YXs3PeMU"]

def europeanNumbers : Unicode.RangeSet := .decode [
  "XG9XrM9X-_7Q"]

def neutrals : Unicode.RangeSet := .decode [
  "0XFA6Q5QYSV0k117D2R1GZL0a00iJ5ZM1111011YQ0ZJ0A0eC3lO170dL0e17ZT6k00dQ3XYI9Z60qQ1fU0KQfL5aOX1XmCbLY2Y9XSjBY5P",
  "1uL1gIe0tVd55E6e0m43OF06052Z00YQ0c4X5c-QXVrqGXMg62Z30A1a0X1Z60aV3C1XQ3tI1qYNnSY51rQ0XUYC3GXxU0mP6nE0h18hPJXl",
  "QCYh8Sp_G0tWTtGtOYO30bQYMZz80Y_GnVXT2XT0bIYiQ"]

def nonspacing : Unicode.RangeSet := .decode [
  "u0ZFeJ6e7XC10111110Y8AXGKG0Z56252113X30UQYRAXQ890O3181214XB2XR8XAXOXN010474036A1T0XQ04380K1Q4XP04GU130B1XP04",
  "740K1M7XQ0201389B1U0XT0C0XI030XN0125GB1T0XQ0F1K1S1XP14380K1T0Y8074YQ026C7Z2028B6Y91R01010XND14115XF90Z631511",
  "21P142G3D02160F0rV2zI2T1U1U1Y36802A90b71X20ZM2419062cR120XQ01810276CXGYJXG0141050X88C1X032112XO0113012XQ721a",
  "O21C16406031c6XVsGX0Y_U2aD0Z0VnA3ZB1zkK319X01YG1eG03040P150aN1QHD0X67PAXE2XG02321X70Y352121C080XF0XJ01221511",
  "0XA180dE02040pvG0u1F-D0d20aL4Xq6EX87b51nT3Y14fT1YD5Y6AXH3ZR0XMEX9021A2XH32170XT2X4417XU0C1XK8A320YV220116020",
  "aT037L1XP130X5EY65D01010E1YL72210N0YK5104111dE36111R1YL72011ZA0102510Z50102314e3811e011040aG740X0521X8523809",
  "522XEC11c601210c9DYKL261111ZQK10Y813010gR1B1XK45010N0bd506Ehc8B32Yk04XR6XWO0XV3YH0pbO1ap1Y6n02H726U3aK2XzRXM",
  "4XH80E0MKXgGaFb06hN0XT3lS3dU1dJ0207150kQ6ZD6"]

inductive Direction where
  | leftToRight
  | rightToLeft
  | arabicNumber
  | europeanNumber
  | neutral
  | nonspacing
deriving DecidableEq

def direction (c : Char) : Direction :=
  let n := c.toNat
  if Name.rightToLeft.contains n then .rightToLeft
  else if arabicNumbers.contains n then .arabicNumber
  else if europeanNumbers.contains n then .europeanNumber
  else if neutrals.contains n then .neutral
  else if Name.nonspacing.contains n then .nonspacing
  else .leftToRight

def hasRightToLeft (label : List Char) : Bool :=
  label.any fun c => direction c == .rightToLeft || direction c == .arabicNumber

/-- Whether the characters after the first one agree with a direction. -/
def agreesWith (first : Direction) (others : List Direction) : Bool :=
  match first with
  | .leftToRight =>
    others.all (fun d => d != .rightToLeft && d != .arabicNumber) &&
      others.getLast?.all fun d => d == .leftToRight || d == .europeanNumber
  | .rightToLeft =>
    others.all (· != .leftToRight) && others.getLast?.all (· != .neutral) &&
      !(others.contains .arabicNumber && others.contains .europeanNumber)
  | _ => false

/-- Whether a label has one direction. Marks at its end do not count. -/
def hasOneDirection (label : List Char) : Bool :=
  match label.map direction with
  | [] => true
  | first :: others => agreesWith first (others.reverse.dropWhile (· == .nonspacing)).reverse

def directionsAgree (labels : List (List Char)) : Bool := !labels.any hasRightToLeft || labels.all hasOneDirection

end JsonSchema.Uri.Name
