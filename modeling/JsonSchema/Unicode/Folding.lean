import JsonSchema.Unicode.RangeSet

/-! Simple case folding: the sets of characters that differ in case only. -/
namespace JsonSchema.Unicode

/-- Splits numbers into sets: the step from the first character of the set before, the number of further characters,
and the steps between the characters of the set. -/
def decodeOrbits (first : Nat) : Nat → List Nat → List (List Nat)
  | 0, _ => []
  | fuel + 1, step :: count :: rest =>
    let steps := rest.take count
    let members := steps.foldl (fun (sofar : List Nat) d => (sofar.headD 0 + d) :: sofar) [first + step]
    members.reverse :: decodeOrbits (first + step) fuel (rest.drop count)
  | _ + 1, _ => []

def caseOrbits : List (List Nat) :=
  let numbers := decodeNumbers [
    "Y11X011X011X011X011X011X011X011X011X011X012X0ebV11X011X011X011X011X011X011X012X0eC11X011X011X011X011X011X011",
    "X0YR2t7X0B1X011X011X011X011X012X0eY611X011X011X011X011X011X011X011X011X011X011X011X011X011X011X011X011X021X0",
    "11X011X011X011X011X011X011djVX01ZP11121121121121121121121121121121121121121121121121121121121121121121121141",
    "121121131121121121121121121121131121121121121121121121121121121121121121121121121121121121121121121131121121",
    "131c311cI11121121cE11121cD11cD11131YF11cA11cB11121cD11cF11Z111cJ11cH11121b311Xfo111cJ11cL11a211cM11121121121",
    "cQ11121cQ31121cQ11121cP11cP11121121cR11141131XO5211321132113112112112112112112112113112112112112112112112112",
    "11321131141121121121121121121121121121121121121121121121121121121121141121121121121121121121121181gnB11131gn",
    "811gnV11gnV11131Y511Y711121121121121121gmV11gmS11gmUA1XfgF51XfgB31Xfh711Xff811Xfg441Xfg411glN11Xfg151glTC1gl",
    "751Xfg351XffAM1XfeL11XfeIb73YKX0dW5XB1121141151a211a211a221ZK71X621X511X511X521Y021XV11XV11dY311X012X0U11X01",
    "1X012X0Y011X011X013X0PX322X0XM11X021X011X011X012X0M12X0XG22V111X011X012X0F11X011X012X0dgT11X011X051dXJV18911",
    "21121121121121121121121121121121141751131161YG11YG11YG11YG11YG11YG11YG11YG11YG11YG11YG11YG11YG11YG11YG11YG11",
    "X011X012X0cYE11X012X0cYD11X011X011X011X011X011X011X011X011X012X0cY411X011X012X0cY213X0cY2111X011X011X011X011",
    "X011X011X012X0cXS11X011X011X011X011X0XH11221cX4211211211211211211211211211211211211211211211A112112112112112",
    "1121121121121121121121121121121121121121121121121121121121121121121F1112112112112112112113112112112112112112",
    "112112112112112112112112112112112112112112112112112112112112112112112112112112112112112112112112112112112112",
    "1121121121121121131XG11XG11XG11XG11XG11XG11XG11XG11XG11XG11XG11XG11XG11XG11XG11XG11XG11XG11XG11XG11XG11XG11X",
    "G11XG11XG11XG11XG11XG11XG11XG11XG11XG11XG11XG11XG11XG11XG11XGYwA1dZ011dZ011dZ011dZ011dZ011dZ011dZ011dZ011dZ0",
    "11dZ011dZ011dZ011dZ011dZ011dZ011dZ011dZ011dZ011dZ011dZ011dZ011dZ011dZ011dZ011dZ011dZ011dZ011dZ011dZ011dZ011d",
    "Z011dZ011dZ011dZ011dZ011dZ011dZ011dZ021dZ061dZ031Y-011Y-011Y-011Y-011Y-011Y-011Y-011Y-011Y-011Y-011Y-011Y-01",
    "1Y-011Y-011Y-011Y-011Y-011Y-011Y-011Y-011Y-011Y-011Y-011Y-011Y-011Y-011Y-011Y-011Y-011Y-011Y-011Y-011Y-011Y-",
    "011Y-011Y-011Y-011Y-011Y-011Y-011Y-011Y-011Y-031Y-011Y-011Y-0r11Xb-G11Xb-G11Xb-G11Xb-G11Xb-G11Xb-G11Xb-G11Xb",
    "-G11Xb-G11Xb-G11Xb-G11Xb-G11Xb-G11Xb-G11Xb-G11Xb-G11Xb-G11Xb-G11Xb-G11Xb-G11Xb-G11Xb-G11Xb-G11Xb-G11Xb-G11Xb",
    "-G11Xb-G11Xb-G11Xb-G11Xb-G11Xb-G11Xb-G11Xb-G11Xb-G11Xb-G11Xb-G11Xb-G11Xb-G11Xb-G11Xb-G11Xb-G11Xb-G11Xb-G11Xb",
    "-G11Xb-G11Xb-G11Xb-G11Xb-G11Xb-G11Xb-G11Xb-G11Xb-G11Xb-G11Xb-G11Xb-G11Xb-G11Xb-G11Xb-G11Xb-G11Xb-G11Xb-G11Xb",
    "-G11Xb-G11Xb-G11Xb-G11Xb-G11Xb-G11Xb-G11Xb-G11Xb-G11Xb-G11Xb-G11Xb-G11Xb-G11Xb-G11Xb-G11Xb-G11Xb-G11Xb-G11Xb",
    "-G118118118118118118YaJ2XYk21111dG1XYm441Zt6H1XYnOZI11211211211211211211211211211211211211211211211211211211",
    "211211211211211211211211211211211211211211211211211211211211211211211211211211211211211221XQ2112112112112112",
    "11211211211211211211211211211211211211211211211211211211211211C112112112112112112112112112112112112112112112",
    "112112112112112112112112112112112112112112112112112112112112112112112112112112112112112112112112112181181181",
    "18118118118118918118118118118118B18118118118118118118118918118118118118118118118918118118118118118C182182182",
    "1891811811811811811811811891YA11YA11YM11YM11YM11YM11Z411Z411a011a011ZG11ZG11ZU11ZU31811811811811811811811891",
    "8118118118118118118118918118118118118118118118918118219G19D18118F18118417E19fV1SXE1G11G11G11G11G11G11G11G11G",
    "11G11G11G11G11G11G11GK11vJ1Q11Q11Q11Q11Q11Q11Q11Q11Q11Q11Q11Q11Q11Q11Q11Q11Q11Q11Q11Q11Q11Q11Q11Q11Q11QXvH1X",
    "G11XG11XG11XG11XG11XG11XG11XG11XG11XG11XG11XG11XG11XG11XG11XG11XG11XG11XG11XG11XG11XG11XG11XG11XG11XG11XG11X",
    "G11XG11XG11XG11XG11XG11XG11XG11XG11XG11XG11XG11XG11XG11XG11XG11XG11XG11XG11XG11XGXH11711211211711311B1121121",
    "121121121121121121121121121121121121121121121121121121121121121121121121121121121121121121121121121121121121",
    "1211211211211211211211211211211211911211511-gE11211211211211411211211211211211211211211211211211211211211211",
    "211K11211211211211211211211211211211211211211a81121121121121121121141121121121121121121121121121121121121121",
    "1211211211211211211211211211211211211211211211211211B1121131121121121121151151121121XG2112112112112112112112",
    "11211211B1z0111211211211211211211211511211311411611211211R11quG11XWS1X011X011X011X011X011X011X011X011X011X01",
    "1X011X011X011X011X011X011X011X011X011X011X011X011X011X011X011X0Xc61X811X811X811X811X811X811X811X811X811X811X",
    "811X811X811X811X811X811X811X811X811X811X811X811X811X811X811X811X811X811X811X811X811X811X811X811X811X811X811X",
    "811X811X8a91X811X811X811X811X811X811X811X811X811X811X811X811X811X811X811X811X811X811X811X811X811X811X811X811",
    "X811X811X811X811X811X811X811X811X811X811X811X8aT1X711X711X711X711X711X711X711X711X711X711X721X711X711X711X71",
    "1X711X711X711X711X711X711X711X711X711X711X721X711X711X711X711X711X711X721X711X7XtB1Y011Y011Y011Y011Y011Y011Y",
    "011Y011Y011Y011Y011Y011Y011Y011Y011Y011Y011Y011Y011Y011Y011Y011Y011Y011Y011Y011Y011Y011Y011Y011Y011Y011Y011Y",
    "011Y011Y011Y011Y011Y011Y011Y011Y011Y011Y011Y011Y011Y011Y011Y011Y011Y0aU1X011X011X011X011X011X011X011X011X011",
    "X011X011X011X011X011X011X011X011X011X011X011X011X0YvR1X011X011X011X011X011X011X011X011X011X011X011X011X011X0",
    "11X011X011X011X011X011X011X011X011X011X011X011X011X011X011X011X011X011X0ri11X011X011X011X011X011X011X011X011",
    "X011X011X011X011X011X011X011X011X011X011X011X011X011X011X011X011X011X011X011X011X011X011X011X0-r11X211X211X2",
    "11X211X211X211X211X211X211X211X211X211X211X211X211X211X211X211X211X211X211X211X211X211X211X211X211X211X211X2",
    "11X211X211X211X2"]
  decodeOrbits 0 numbers.length numbers

/-- A character and all that differ from it in case only. -/
def caseOrbit (c : Nat) : List Nat := (caseOrbits.find? (·.contains c)).getD [c]

end JsonSchema.Unicode
