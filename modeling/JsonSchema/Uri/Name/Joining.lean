import JsonSchema.Unicode.Normalization

/-!
Joiners in the labels of a name. A joiner is invisible, so it may stand only where it changes how the label looks: after
a mark that silences a vowel, or, to keep them apart, between letters that would join. The tables hold for the
characters that a name can have.
-/
namespace JsonSchema.Uri.Name

def leftJoining : Unicode.RangeSet := .decode [
  "XgZI0uoQ090n80sA0"]

def dualJoining : Unicode.RangeSet := .decode [
  "Xn005010144C1611X319EIX511901011X8220I25318101011VA3E23102225YAX0YM4201910A01320T02410G951251EZvU0OYOEX110XZ",
  "yLXHuoE4E31412A3aH01032111020S1gIX010iV111Z821GC2S32BXE011402111102050XsgNX1"]

def rightJoining : Unicode.RangeSet := .decode [
  "Xn23101053L0X82KHX602810102110O1X00444090101020T0B2F1401131c605110A012E01PB0R2102160YWmB0101134A03020A0aH012",
  "30201110N3hL0iV0ZG0X00V1XU221204150"]

/-- Marks that letters join across. -/
def transparent : Unicode.RangeSet := .decode [
  "u0ZFeJ6e7XC10111110Y8AXGKG0Z56252113X30UQYRAXQ890O3181214XB2XR8XAXOXN010474036A1T0XQ04380K1Q4XP04GU130B1XP04",
  "740K1M7XQ0201389B1U0XT0C0XI030XN0125GB1T0XQ0206051K1S1XP14380K1T0Y8074YQ026C7Z2028B6Y91R01010XND14115XF90Z63",
  "151121P142G3D02160F0rV2zI2T1U1U1Y36802A90b71X20ZM2419062cR120XQ01810276CXGYJXG0141050X88C1X032112XO0113012XQ",
  "721aO21C16406031c6XVsGX0Y_U2aD0Z0VnA3ZB1zkK319X01YG1eG03040P150aN1QHD0X67PAXE2XG02321X70Y352121C080XF0XJ0122",
  "15110XA180dE02040pvG0u1F-D0d20aL4Xq6EX87b51nT3Y14fT1YD5Y6AXH3ZR0XMEX9021A2XH32170XT2X4417XU0C1XK8A320YV22011",
  "6020aT037L1XP130X5EY65D01010E1YL72210N0YK5104111dE36111R1YL72011ZA0102510Z50102314e3811e011040aG740X09X85238",
  "09522XEC11c601210c9D10YIL261111ZQK10Y813010gR1B1XK45010N0bd506Ehc8B32Yk04XR6XWO0XV3YH0pbO1ap1Y6n02H726U3aK2X",
  "zRXM4XH80E0MKXgGaFb06hN0XT3lS3dU1dJ0207150kQ6ZD7"]

def reaches (set : Unicode.RangeSet) (text : List Char) : Bool :=
  (text.dropWhile fun c => transparent.contains c.toNat).head?.any fun c =>
    set.contains c.toNat || dualJoining.contains c.toNat

def isNonJoiner (c : Char) : Bool := c.toNat = 0x200c

def isJoiner (c : Char) : Bool := c.toNat = 0x200d

/-- Whether joiners are where they may be, after what comes before, the last character first. -/
def joinersFit (before : List Char) : List Char → Bool
  | [] => true
  | c :: rest =>
    (!(isNonJoiner c || isJoiner c) ||
      (before.head?.any fun last => Unicode.combiningClass last.toNat == 9) ||
      (isNonJoiner c && reaches leftJoining before && reaches rightJoining rest)) && joinersFit (c :: before) rest

end JsonSchema.Uri.Name
