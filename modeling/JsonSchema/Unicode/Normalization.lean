import JsonSchema.Unicode.RangeSet

/-!
Canonical composition: marks stand in canonical order, and a character and its marks are one character where there is
such a one. Texts that look alike and mean the same are then equal.
-/
namespace JsonSchema.Unicode

/-- Splits numbers into a composite and its two parts, each by its distance from the one before. -/
def decodeComposites (composite first second : Nat) : Nat → List Nat → List (Nat × Nat × Nat)
  | 0, _ => []
  | fuel + 1, step :: a :: b :: rest =>
    let row := (composite + step, moved first a, moved second b)
    row :: decodeComposites row.1 row.2.1 row.2.2 fuel rest
  | _ + 1, _ => []

def composites : List (Nat × Nat × Nat) :=
  let numbers := decodeNumbers [
    "c0a2Xm010210210210A10424XQ14YD10210210C18F10210210C2A912510210210210A3CF10210210C18D3G110210210210A10424XQ14",
    "YD10210210C18F10210210C2A912510210210210A3CF10210210C18D20E1ZF71Y001XV41Y001XVY41Y001XRYD1Y001XV21Y001XVA1Y0",
    "01XVA1Y001XT01Y003XTF1Y001XV41Y001XV21Y001XVY21Y001XVXN1Y001XRJ1Y001XV81Y001XV21Y001XVY01Y001XTY91Y003XT21Y0",
    "01XV21Y001XV41Y001XVY41Y001XVY14291Y001XTYA1Y002XTYB1Y001XVYC1Y001XVXL1Y005XRL1Y001XVYC1Y001XVXL1Y004XTF1Y00",
    "1XV41Y001XVA1Y003XPJ1Y001XVYC1Y001XVXL1Y001XTL1Y001XV21Y001XVYA1Y001XVXL1Y001XTXM1Y001XVXL1Y003XTH1Y001XV21Y",
    "001XV41Y001XV81Y001XV21Y001XVXQ1Y001XRYB1Y001XR01Y001XVC12D1Y001XVC1Y001XVA1Y00X2YLU1Y00EXJ01Y00TZ7T1Y001XF0",
    "1Y001XJ01Y001XJ01Y001cEF1Y001XV51Y001XVM1Y001XVN1Y002ZF81Y001q401201s101Y003fTG1Y001XN01Y001XNXO1Y001tMY7120",
    "1Z7G1jM01XYF04Y5L1Y003XH11Y001bE21Y001XT01Y001R01Y001hDS1Y001XV41Y001XN31Y001XV41Y001XN31Y001XV41Y001XJ31Y00",
    "1XV41Y001XP31Y001XV41Y001XP31Y001XV41Y001Y3XA1Y001XT01Y003YNXJ1Y007YD91Y001XNY01Y001d2Y51Y001Y101Y001gB61Y00",
    "1xU51201zB01Y00gIYU51XkI02801401402C02C01801Y20QZ1E1O01OD1801401401X40QX3E1O01BD1C01805I010EXCa6F10G23D4PE5X",
    "8D1311MCBL0X0Y00N5B10G23D4Y6E5XND1311MCOZ2I120YAbTH1Y00EYB01Y001XV41Y003XL31Y003g641201i501Y001XT01Y003XT71Y",
    "001XV81Y001XJ01Y003gK01201hN01Y001YJ71Y001XV81Y001XV61Y001XN51Y003XN01Y00f9zOXqM1021Y201Y121Y61aQeM02X70HX20",
    "oMXbCXkG8G0360aNf8e410XIhSu0tU30XF10XIY8aMe0XMZ8XH12011XIZSe0dUZOdIdU7E010220X718X6ZVdOcI12011XIaEf6d620A169",
    "15XAo8XaOXaUYt0bk0bmE240240240240480X9YI0240340120260rTjm1iWV1Y001XTXR1Y001XVXO1Y001XVS1Y001cAYV1Y001g5C1Y00",
    "1XVXO1Y001XVS1Y001XVJ1Y001XVC1Y001gSYP1201121201iRYO1Y001XV61Y001y6YJ1201-521Y001XT51Y001XT61Y001XVXO1Y001XV",
    "XL1Y001XVXU1Y001XVE1Y001XT41Y001cCYT1Y001g701Y001XVY41Y001XVS1Y001XTR1Y001kyKXT1201k-LYQ1Y001XV71Y001XTYN1Y0",
    "01XVC1Y001XVXO1Y001XTXN1Y001XVXO1Y001XVS1Y001XV71Y001cEYN1Y001XVE1Y001bEF1201121201lP01Y001XVC1Y001XR01Y001X",
    "VXO1Y001k-GXT1201lWHYQ1Y001XTYJ1Y001XVXO1Y001kEXN1201A01201km201201lWT01Y001XVXO1Y001XVS1Y001XV71Y001XTH1Y00",
    "1XVO1Y001XV51Y001l6YN12012E1201n991Y001XVY01Y001XTY51Y001XV21Y001XVE1Y001XV11Y001XVXO1Y001XTXN1Y001XV21Y001X",
    "T11Y001XT91Y001XVY21Y001XVS1Y001X301OYH1641402mC55pRXO1Y001XVXJ1Y001c2F1Y001XV11Y001XVI1Y001XVB1Y001kxS11201",
    "kvT112011112011I12011B1201kvQ61201lbNXQ1Y001XVXJ1Y001XVB1Y001cA31Y001XV11Y001XVI1Y001XVB1Y001kyS11201lcVE1Y0",
    "01XVXK1Y001XJ01Y001XVXJ1Y001cAF1Y001XV11Y001XVI1Y001XVB1Y001kzG11201koP112011112011I12011B12011Y01201qN01Y00",
    "1XVXJ1Y001pKF12011112011I12011B12011Y01201rDY51Y001XVY61Y001XVXJ1Y001XVB1Y007XpGX01021jqUX712011212011a21201",
    "jsVYT1021jtEX712011212011a21201jr7YT1021jrMX71201121203jtNX41021ju6X71201121203js3X41021jsIX712011212011a212",
    "01juJYT1021jv2X712011212011a21201jsVYT1021jtEX712011212011a21201jvFYT1021jvUX712011212011a21201jtJYT1021ju2X",
    "71201121203jw3X41021jwIX71201121203ju7X41021juMX712011212011a21202jwNYR2jx8X720220a21juVYT1021jvEX7120112120",
    "11a21201jxFYT1021jxUX712011212011a21201jxFa32802402402C02C02804jpEaA1201201201201201201201201201201201201201",
    "201201X201201201201201201201201201201201201201201201201Z201201201201201201201201201201201201201201201201jxRZ",
    "T1031jxUa21jxT01902A51kWA61kY9ZT10310720aA5XkH51liO61jxP01H02I51kWU61kZ1a924020aA1kYGa910210a21kWBZN1031X274",
    "X1a41X201Z1ZN1031073kcA010210a21kZHZN1031C72JX610218YS1C01YBZN10310727X81XlHX75lj8aA1jx501A02951kYQ61kbDa92K",
    "020aAiUk-EP140J40VZO0180130XLZ205A0360OXG0240RXE03E0340260NnWL02nY80BX701nX101401nYC01203Q01203601207601203E",
    "0120360120X3XM01C0120140XHYT01201X801207Y00120120120ZgVcvCss22402402402402402402402402402402403602402407E010",
    "2261102261102261102261102NZ91AbE0ES02402402402402402402402402402402403602402407E0102261102261102261102261102",
    "NZ913aI01201201204M0XrcBZgjAsv3RG0YrMbhUacx6240FK0a3eOcQ120mSXXAXXE10XIXNZMd424R9EE3AEXKZ4D20J10X2dJlEl210J2",
    "0QdSlUl4120xTXtOXu2n_9XZ-IXZ-S10M10J1M01L2161120112ZY0caCcaE1701C0"]
  decodeComposites 0 0 0 numbers.length numbers

/-- Splits numbers into ranges and the number that goes with each. -/
def decodeClasses (next : Nat) : List Nat → List (Nat × Nat × Nat)
  | step :: length :: value :: rest =>
    (next + step, next + step + length, value) :: decodeClasses (next + step + length + 1) rest
  | _ => []

def combiningClasses : List (Nat × Nat × Nat) :=
  decodeClasses 0 (decodeNumbers [
    "u0Kd600d803cS00d800cO04cS01cA03cS01cA0AcS04103cS02d620d620dG00d602cS02d601cS12d603cS00d600d801cS00d600d901dA",
    "00d901dA00d90Cd6eJ4d6e90cS03d600cS02d600cU00cS05d605cS01d600cS01d600cU00d400d600A00B00C00D00E00F00G00H00I01J",
    "00K00L00M10N10O00P10d600cS10IY87d600U00V00X0XG0R00S00T00U00V00X000X100X201d601cS04d600cS01d600cSG0X3Z56d623d",
    "600cS00d621d610cS01d600cSX30X4U0d600cS01d600cS01d602cS00d601cS00d600cS02d600cS00d600cS00d600cS00d600cS01d6b0",
    "6d600cS00d690cSO3d618d612d614d6XB2cSXR1d602cS03d6XA4d604cS0Dd610cS01d600cS01d600cS02d602cS00R00S00T02d600cS0",
    "1d601cS04d6XS07G0930d600cS01d6Z707G09XG0d6XT07G09ZE07G09ZE07G09ZV09ZE07G0970YK00YRZ507G09ZD19G09ZS09ZD1Z7009",
    "D3ZBZC1ZM009D3ZQYC1cSR0cS10cS10cOXN0a100a210a453a220a211d600911d6XU0cSZG07119YI0cSsF2d6zK19U09aT09A0d6cB0d4a",
    "F0cU00d600cScR0d600cSY709K7d620cSXG4d605cS01d600cS11cS01d601cS04d600cS0Hd600cS25d600cS03d600dAY807F09X60d600",
    "cS06d6XM19XQ07B19Y307aO2d610104cS01d603cS00d616140cS60d631d6c61d600cS06d600cS01d600dA00cM00cS00cA0X4d600d801",
    "d400cS00cQ00d600d900cS00d600cSsG1d601103d602101d640d631100d600cS00d601103cS00d6Y_U2d6aD09Z0Vd6nA0cQ00d400d80",
    "0cU01d0Z918zkK0d649d6X01d6YG1d6eK09X509aN09RHd6XP2cSX509YV07C09dF0d611d600cS21d651d610d6XK09dM09pvG0Qu16d606",
    "cS01d6-D0cSd20cSaL4d6XqI0cS10d6X80d600100cS409b50d600cSnT3d6Y14d6fT1d6YD1cS12cSY61cS02d600cS00d603cSXH0d600c",
    "S00d600cSc009X909E09XP09007Y52d6XG19XU07YC09907ZA09007bI07009YG17G09O6d634d6YP29ZH09307N0d6Z309007dR09007ZU0",
    "9ZM09007ZJ09eD09007e219407aS09YJ09I09YH09j509e207119YH09j919mlC09Yk041XR6d6XbP16pbC01bc61cO02130d204cO87cS24",
    "d601cSU3d6aK2d6ZjR6d61Gd626d611d614d6Z40d6b06d6hN0d6XT3d6lS1d800cS00d6dU0d600cSdJ0d620d671d650d6kQ6cSZD5d600",
    "7"])

/-- The place of a mark; zero if the character is none that moves. -/
def combiningClass (c : Nat) : Nat :=
  if c < 0x300 then 0
  else ((combiningClasses.find? fun row => row.1 ≤ c && c ≤ row.2.1).map (·.2.2)).getD 0

def hangulLetters? (c : Nat) : Option (List Nat) :=
  if c < 0xac00 || 0xd7a3 < c then none
  else
    let index := c - 0xac00
    let trailing := index % 28
    some ([0x1100 + index / 588, 0x1161 + index % 588 / 28] ++ if trailing = 0 then [] else [0x11a7 + trailing])

def decomposeTo : Nat → Nat → List Nat
  | 0, c => [c]
  | depth + 1, c =>
    match composites.find? (·.1 = c) with
    | some (_, first, second) => decomposeTo depth first ++ [second]
    | none => [c]

/-- The parts of a character. No composite has more than three levels. -/
def decompose (c : Nat) : List Nat := if c < 0x80 then [c] else (hangulLetters? c).getD (decomposeTo 4 c)

/-- Puts a character after the others, the last one first; a mark goes before those with a greater place. -/
def putInOrder (c : Nat) : List Nat → List Nat
  | [] => [c]
  | last :: before =>
    if combiningClass c != 0 && combiningClass c < combiningClass last then last :: putInOrder c before
    else c :: last :: before

def hangulSyllable? (first second : Nat) : Option Nat :=
  if 0x1100 ≤ first && first < 0x1113 && 0x1161 ≤ second && second < 0x1176 then
    some (0xac00 + ((first - 0x1100) * 21 + (second - 0x1161)) * 28)
  else if 0xac00 ≤ first && first ≤ 0xd7a3 && (first - 0xac00) % 28 = 0 && 0x11a7 < second && second < 0x11c3 then
    some (first + (second - 0x11a7))
  else none

def composite? (first second : Nat) : Option Nat :=
  hangulSyllable? first second <|> (composites.find? fun row => row.2.1 = first && row.2.2 = second).map Prod.fst

structure Composition where
  finished : List Nat
  /-- The last character that is no mark. -/
  base : Option Nat
  /-- The marks after it that are no part of it. -/
  marks : List Nat

def Composition.toList (state : Composition) : List Nat :=
  (state.marks ++ state.base.toList ++ state.finished).reverse

/-- Adds a character, as a part of the base if no mark of the same place or a later one stands between them. -/
def Composition.add (state : Composition) (c : Nat) : Composition :=
  let reachable := state.marks.all fun mark => combiningClass mark < combiningClass c
  let joined := if reachable then state.base.bind (composite? · c) else none
  match joined with
  | some whole => { state with base := some whole }
  | none =>
    if combiningClass c = 0 then ⟨state.marks ++ state.base.toList ++ state.finished, some c, []⟩
    else { state with marks := c :: state.marks }

def compose (text : List Nat) : List Nat :=
  let ordered := ((text.flatMap decompose).foldl (fun before c => putInOrder c before) []).reverse
  (ordered.foldl Composition.add ⟨[], none, []⟩).toList

end JsonSchema.Unicode
