import JsonSchema.Unicode.RangeSet

/-!
What characters stand for in the name of a host: themselves, others that mean the same, nothing at all, or no name can
have them.
-/
namespace JsonSchema.Uri.Name

def refused : Unicode.RangeSet := .decode [
  "a0VsO1637010K0iD0X61XI130XN7R36GM0c00XG1XR1Z5DXR1XH1F0S110B4X06YB0b108121M0701241912147132051P1306321M070202",
  "02110532132164016H9309030M0702051A030311E41C670308121M0702051912136332051I9206230422010222232C3523041151DL4D",
  "030N0G190304620302141A6M030N0A051903046243041A03BD030XJ03063G1Q030I2O090117213601085A13BXQ3TX4201050O010N150",
  "1070A14VY80X43X70X40F0DX4c601411hP041701041X9041X1041701041F0XP041Y31X02Q5YM161q00S2YP6M8O8KBD0302BYU1A5A5Q5",
  "YP6XB4Y69V0C3C312XA15AXC3Q5B2XU1Y10T1B5A5E1XE1CJYD0b67XS2F2XU4XB1B7XB4mM161X616180101010V1XL0F0E160J13090E1K",
  "216XM481R0D2X2DX1EaC3qQLBKX8JXsO1hU4XD01411XO62DO87070707070707070ZUX1Q0YPBcMX9Y00YM1Z74XB0YU0YM9XF0j2040G0y",
  "bK2XN8gSJbO7cTJXS2A5XO7Y67C5ZKAU2YE0B3X10XN8E1A1Z7NS96161687070XS3ZU1A5gz4BN3XHee3hE1ZAX57B54Q050102020qAVX2",
  "066G0X11J04350a7110bU261616132707GC0Q0J020F1EX1ZR433XD2YO0D21XEXEa1T2XHES3X48U4XB4U0X53EX9aU1A5X43X43X87XKAC",
  "0F07020B0F07022XKBfN8M98N60XA09Y46110XC02211N0Y879XFJ024X12R4RX5XO3K1XI0248030T133A696Y0VX73C8XM2T1R4Q64B7YF",
  "Y9XMXJCXJ6XE7A5X62T72cFV0XA0312F679X0XE7XALQX5SJN8YE3X48XU05CP6A5XL0I7X78Z00KAI0XFXT701040F0B5XR4A5408121M07",
  "02050A12131151471725AA01110X60A0111040A0272SYS05TY87Ab5XM1X6X1Y5AA5DIXQ5A5KRR1F3NbOXSZ3YJB81118020U021C8AY58",
  "1XE1BQY87YJCY96AYL8YNX2DA590XD0E9T2X01M0EY87020XC2102097A56020X502066A5XC3AdLP6H0X92TYK1EXICyRZ5ZF05Ac4YoBZ3",
  "CXXGFM9ZyR4o7crOXQXs5nP6V0A3YH0A5U169Y69A070L4JjFXQc5YR4P1PXBYB3XP6HXV5A78dcMX8X0Z0ZJelS407020f3E1S311D47iCY",
  "e3ZB4D296A18ZwRdT2jK5NEHEXE1N8ZKXRdM9X71c2KY6ZPKBKBYN8Pa6YL0Y7021112140C01070Y10418070S040501270gK1f41rUE50F",
  "XYFV56cK70H1702054XUX01ZFXD2E1A32fVVGXQ41kFXAcLXB31bVV0M72cV704020F0c51GX8YC3A32uGY4YBXTc140R0201110A0401015",
  "13101010302011101010101020114070404010A0H43050HXJ2eDXC3Z4BF1F0F0X5AbDXNTCXC3962D6aP-P2H2D2cQ5C31EC3XO7A5X87U",
  "1C32D9X6gO7E1D2B2XP013G1C3A6aJ0Z7XW4Xft0VaeU1bqE1dfHEpEYj1mUXl1awB4efArpa5dGb_mF"]

def ignored : Unicode.RangeSet := .decode [
  "bD0r10ZmF1XoJ1YL4X_R0YK455adK0XpaRFdF0b00XldV3bcF7uhy5dF"]

/-- Splits numbers into characters, each by its distance from the one before, with what they stand for: how many
characters, and each of them by its distance from the one before. -/
def decodeMappings (c target : Nat) : Nat → List Nat → List (Nat × List Nat)
  | 0, _ => []
  | fuel + 1, step :: count :: rest =>
    let targets := (rest.take count).foldl (fun (sofar : List Nat) d =>
      Unicode.moved (sofar.headD target) d :: sofar) []
    (c + step, targets.reverse) :: decodeMappings (c + step) (targets.headD target) fuel (rest.drop count)
  | _ + 1, _ => []

def mappings : List (Nat × List Nat) :=
  let numbers := Unicode.decodeNumbers [
    "b01Y0820XkG21XgD52a1Xk831Xj311212X5Xk211hM32XvNXmE11XlB11ZS23ZRmX6mWV135mX6mX3132mX2mWV21gO11211211211211211",
    "2112112112112112112112112112112112112112112112112214112112112112112112X2162142142142142142142142142142142142",
    "1421421421421421421421421421421421422iBXfS22XfR2121211iM21431621421422j3aM12aLaM11eM21421421422t8XaR11jQ2142",
    "1421421421421421421421421421421421421421421421421421421421421421dF11dM21421421mL21-011iV21421iU11iN21iS11211",
    "iL31b211dO11411iH21iS11621C11111iT41jC11621611j721421421jM11jF21jM31jB21jM11jF21jK11211jD21421jO11jH41882rHn",
    "K12nJnK12nJnK12n331243124312871287128711s821421421421421421421431621421421421421421421421432uLXC12XBXC12XBXC",
    "11tM21bV11YK11ZK21421421421421421421421421421421421421421421421421421421421e121eA21421421421421421421421481r",
    "Z411rYH21g311riO31rY721i311mI11611a9214214214214Z21-D11_S11_N11G11XWE11411C11XWJ114X02bHXkC12XkBXkE12XkDXkK1",
    "2XkJXmG12XmFXk612Xk5XkM31gF11_D11E11A11XXQYS1cM11221X412LD11hGXB1aF21421hJ21hS42XrDXvI41XtR11XxG52Xz5Xk213Xk",
    "1XkGD11gM11Xl911XlC11211221XQ21211221XP112112112112112112112112112112112112112112112112214112112112112112112",
    "112112X41O11Y911C11Q11G11311911B21XI21421421421421421421421421421421421Z911E11421L11521a621Z911ZG31dV1121121",
    "1j611211211211211211211211211211211211211211211211YT11211211211211211211211211211211211211211211211211211211",
    "2112112112112112112112112112112112112XH1X4214214214214214214214214214214214214214214214214A1K214214214214214",
    "21421421421421421421421421421421421421421421421421421421421421421X011P21421421421421421431621421421421421421",
    "421421421421421421421421421421421421421421421421421421421421421421421421421421421421421421421421421421421421",
    "421421421421421431Z41121121121121121121121121121121121121121121121121121121121121121121121121121121121121121",
    "12112112112112112112112XH2Y1XQdE2gAaQ12YNYO12b6b512YJYKt02Xg2YE12YBYC12Y9YA12XVY012XLXM12XJXK12X1X212PQZT2cA",
    "XM12XJXK22PQYK2dCK3278X32YBYC12Y9YA12XVY032X1X2dU2kAXM12XJXKsM2Xn2XLa02fMXLX92DX312X4JXF1cKXN2ZEdAA2cLcM52cB",
    "cC52c1c252bNbOD2dDdAA2a72221612ZSZ313Z4a1U12Z6Z513Z6a3U82TUI2X4YAA2XLXM52XBXC52X1X252NOD2YDYAd71kqM112112112",
    "11211211211211211211211211211211211211211211211211211211211211211211211211211211211211211211211211211221461C",
    "XF1kb1tS1Xn8112112112112112Ya31dy511411K11611211011G11XI11Ym-G11Yay171bxJ11211211211211211211211211211211211",
    "2112112112112112112112112112112112112112112112112112112112112112112112112112112112112112112316112112ZD1efR11",
    "eA11e721411211tG11tB11211211211211211211221211x811x511411411211411XB11-U11211jh211kfV11411211_811411211_9218",
    "11411jS11jN11-A11ji411211kgD11811211kgG11jgR11_H11kgU11it511211211X411211XrR11I11611211XpO11211S11A112E1dCX3",
    "1-L11-T11_411s911sO11_B11_I11411811611211211jn211jjR11YV11jnG11jkB11YR11111411211211211611K11211jF11jS11211j",
    "f411jf111211XX311XXC11211211oCY11jaI214214214214214214214214214214214214214214214214214214214214214214214214",
    "214214214214214214214214214214214214214214214214214214214214214214214214214214214214214214214214214214214214",
    "21421421421421421421421421421421421421421462lZ7XbQ11jw631ku321ky42142142142142142142142142142142142142142142",
    "14214214214214214214214214214214214214214214214214214214214214214214214214214214214214214214214214A121121121",
    "1211211211211291I112112112112112B1M11211211211211211211291I11211211211211211211291I112112112112112C1O2142142",
    "1491I11211211211211211211221jxL21221221221XQ21221232jp4jqD12jqGjqF12jqIjqH12jqKjqJ12jqMjqL12jqOjqN12jqQjqP12",
    "jqSjqR12jqEjqD12jqGjqF12jqIjqH12jqKjqJ12jqMjqL12jqOjqN12jqQjqP12jqSjqR12jsEjsD12jsGjsF12jsIjsH12jsKjsJ12jsMj",
    "sL12jsOjsN12jsQjsP12jsSjsR12jsEjsD12jsGjsF12jsIjsH12jsKjsJ12jsMjsL12jsOjsN12jsQjsP12jsSjsR12jwEjwD12jwGjwF12",
    "jwIjwH12jwKjwJ12jwMjwL12jwOjwN12jwQjwP12jwSjwR12jwEjwD12jwGjwF12jwIjwH12jwKjwJ12jwMjwL12jwOjwN12jwQjwP12jwSj",
    "wR32jxEjxD12FG12PQ32j_Qj_P11j_E11211a111jy712AG12XvHXl611gC12XvHXl612Xl5Xo413Xo3XkGZK12kZ4jxL123412LM32kWQkW",
    "P11jxI11jy911jyE11jyB12I413XvHXl6X513XjVXl6X313Xk1Xl6YU41aS51ka011211bL11jyD23XuTXl8X713XjVXl8X513Xk1Xl8YS41",
    "cS51kZ011211cD11jwP11kXG13ly9XkGF13XjVXkGD11Xg132lnOjy512X0V12XAX932kZQkZP11jxU11jwN11jx011jwR129V12XvHXk212",
    "Xk1Xl821Xl711011011011011011011011011011071l_062l-VXn6O1Xn542mX401300022601300052mX70221XkA92XiB0120XR120XSE",
    "4l_600081mX3H1X011ZI31Z911211211211211211R11m-E11mz911X911211aA11ZR11211211211211211211211211211R11m-E11mz91",
    "1X911221ZG11811K11I11-211_1116112112112114116112C232YO3X3Z3Z8133Z3a811V12aQaP230Z7a013NZ7aC11-C22wLaJ1121121",
    "1011011011hU11hR1101161102141202312112112110110322B13ETE12GD21Q21XqU21XqT21T11dK11e511221411011211mkG11mk111",
    "411Ys211211211211YsJ2359XE11XqG11P11011Q11lb251mwP11011211811273ZHmX6mWP13BmX6mWL14FmX6mX51132mX6mX1131mX4mX",
    "1133mX6mWT135mX4mWT133mX2mWT131mX0mWT137mX6mWR131mWUmWR139mX6mWN139mX2mWN135mWUmWN131mWQmWN12DmX611lzL120013",
    "000120Q110120P13QP014QP00120U110120T13UT011611H11211I117120013000120Q110120P13QP014QP00120U110120T13UT011611",
    "H11211I41mnE63mr7mX8mX1b32m_G013000226013000dP1czK112fM1tzF11211211211211211211211212F1122012021214123612581",
    "27A129C12BE12DG12D313FIF131KH131MJ131OL131QN131SP131UR131X0T131X2V141I1D141I0F141I2H141I4J141I6L141I8N141IAP",
    "141ICR141IET141IGV141K3DL31ZIZF131ZKZH131ZMZJ131ZOZL131ZQZN131ZSZP131ZUZR131a0ZT131a2ZV131a4a1131a6a3131a8a5",
    "131aAa7131aCa9131aEaB131aGaD131aIaF131aKaH131aMaJ131aOaL131aQaN131aSaP131aUaR131b0aT131b2aV131b4b111ZG112112",
    "11211211211211211211211211211211211211211211211211211211211211211211211XH11211211211211211211211211211211211",
    "211211211211211211211211211211211211211211aJXf24m_M000Z83m_106120013000Z62rg0pw9f41qlG1121121121121121121121",
    "121121121121121121121121121121121121121121121121121121121121121121121121121121121121121121121121121121121121",
    "12112112112XH1421q_B11jn411jlV31q-M21421421rXL11Y011Y111421rY231671sWN11O11yI11211ra221421421421421421421421",
    "421421421421421421421421421421421421421421421421421421421421421421421421421421421421421421421421421421421421",
    "421421421421421491I21451AZT1cSfG1_cOYK1vz4D1XevT11YG11S11I11XK11YO11E11X811XK11XeA11YC11C11XE11X811XA11ZA11X",
    "A11M11fM11bS11XO11A11XS11I11XM11Q11XI11Z811X411XM11Xl811aG11yO11XE11G11M11X411aO11zQ11Z011dG11XE11X611XC11ZC",
    "11611sK11K11O11Q11d811G11A11dA11K11Q11G11ZQ11X211X411b011XaA11YS11XA11Xk811A11b611X011Q11XA11YE11A11mM11XG11",
    "Y011X_G11a411XE11ZK11XG11I11E11Z811A11Y011YZE11xU11O11A11811G11X411411b211jG11A11r611K11Z411E11I11G11bM11E11",
    "k811E11Z211X211YU11kQ11E11X211qE11dS11C11hC11bE11YS11tK11eA11XZS11XM11ZI11Z611a811M11C11Y211aO11K11rK11E11I1",
    "1I11X011U11811aU11811C11XzA11XS11zA11O11XE11nM11Q11aE11YS11XZE11U11U11Y611YA11iE11O11a611lG11XU11j211XA11A11",
    "jO11hG11dQ11C11A11XwC11I11fO11fK11611YU11cI11Q11811E11c411Y411C11S11gE11Z611811hE11611X611lO11Z011E11aC11K11",
    "611K11XS11uM11v011K11YC11XC11G11K11811YG11811X211A11Q11XM11U11G11ZM11U118XB1YltV21SXK1t-821noU116112Z12Xfo9u",
    "dI12udHudK32X34Z02YIXAXI1lyF11211gI11gF11gK11211gJ11211211gM11211211211211211fL11X711211211XI11XF11211211211",
    "211211211211211211aU11211211211211211211211211211211211211211211211211211211211221c111211h411211811411A11811",
    "411hP11i211411i311211411411211811411411211211211211611811K11E11A11gA11211fL11211211YM11211611I11211411K11641",
    "-bU11eO11e511aj411aj111Y611Y311poE11pjH11ZV11XF11boG11_H11adBZ13Xdf3ejGejD131ejKejH131ejMejJ131ejQejN131ejSe",
    "jP131ejUejR131ek2ejV131ek6ek3131ek8ek5131ekCek9131ekEekB131ekGekD131ekIekF131ekKekH131YrzGYrzD131Yud0YucT131",
    "YvhOYvhL131Yxr8Yxr5131Yyw0YyvT131Yz-OYz-L131ZWe8ZWe5131ZYnOZYnL131ZZsGZZsD131ZcW0Zb_T131ZdaOZdaL131ZefGZefD1",
    "31Zfk8Zfk5131Zgp0ZgoT131Zaj8Zaj5141ZY_O-0ZZzL141ZY_Oeg0ZhfL231XczGXczD131Xdc8Xdc5131Xc-2XczV131Xhh6Xhh3131Xd",
    "cOXdcL131XeqAXeq7131XczMXczJ131Xeq6Xeq3131XdZAXdZ7131XfnIXfnF131Xpk0XpjT131Xua6Xua3131XsWOXsWL131Xpm0XplT131",
    "YewIYewF131XhlEXhlB131XoxQXoxN131XqW4XqW1131Xpk2XpjV131XynCXyn9131Xf-AXf-7131Xvb2XvaV131YcdIYcdF131XypAXyp71",
    "31XfeOXfeL131XdhMXdhJ131Xgb8Xgb5131XjpSXjpP131XxhMXxhJ131XdjIXdjF131YcfUYcfR131XfoOXfoL131XyqAXyq7131XdkIXdk",
    "F131YWy4YWy1131YWyMYWyJ11XgoC11aoQ11ZmM11hWG93XznT8T12Z5112201202121412361258127A129C12BE12B5126312411220120",
    "2121411eiM11411211411211211411411211411211211211211YjkS11YfG11XaO11YfG11XaO11XaO11YfG11YfG11XaO11YfG11XaO11X",
    "aO11XaO11XaO12anVlrF12kXOw711gF21XygV11eO11e511aj411aaD11XjI11XsJ11XsG11XmR11Yk811fyE11as611YZD11YmN11rgI11z",
    "h311diC11XaA11o111fZA11op111lcO11jYG11fq711pgH11po811Yg111jy711xlC11_pT11XaC11itG11rnQ11Xal711XeG11iyK11krH1",
    "1Y611Y311dzM11a_511hF11abO11Z111jtQ11p-311-yC11yt511YyG12XikH61258127A129C1297128512631241122012021214123612",
    "58127A1279122XpjE12XpjBXpjC12Xpj9XpjA12Xpj7Xpj812Xpj5Xpj612Xpj3Xpj412Xpj1Xpj212XpiVXpj012XpiTXpiU13XpjD1XpjG",
    "13XpjD0XpjE13XpjD2XpjC12XpfV1133QL123X213JGV11uZS11411411411411211411411411411411411411411411411411611411411",
    "411211211211211211611611611611611211211211211411411411211211211211211411211211212k_4YwG14n-JYUYMZ714YBaIXBZ7",
    "142b2XHZF130bKX114aDYEYGa513NaUZ313XL6aK15aLX2JaQZ514Y1b8b1b213b3aIZJ13Tb4XN13Z9DaC14ZTZSYBA14XPa45X413aVa2C",
    "13aDaEX912YV3134XQZ214aTZGAX414aRZQYLZO12aTa015ZVa0ZPZIH16Z5a0NXMZ7Y615ZRa04YNA13XFZIH15YVZIHXFYM15a7ZOYTXFa",
    "I14ZRZSUYT13XNaMa513BZGY113XDaIXT14YFX1MZO15ZBZSZ3ZMXN14YHZ6Ia513MZGZ313BZGYL13FZOa512SV12X4Y412Y5YM12YH8130",
    "LA13EYLY015QYMa1ZGYL13IYMZF14OYOV115XDZ3XEUY613XDY9ZO12XDY112Y0XG15XBZ7aGYBC14OZ3bIZ715SX5NVa813XBX8K15XLYHX",
    "0ZQX112X1XP13XQTE13CX6YD13XCXIZJ13Y2Y4a713Y2Y6ZP14XSZHaUYL13X8UY512X6XG13XBXCYJ13X4Y2X113VY2H14X9ZJMZS13TZJa",
    "E13PXLO13UQZN15YUXAZNZ0O14X7YVZSC12X7M15LMXJYOX112JZ914ZAZ9XOYM14X3XMZ7Y613DXGZ513XMXGX1139a7b214HYDAY612111",
    "34XDYG14X1X2YBXA122N15OEYLXBa2137YNA12ufFXueI12XueFXueG12XueDXueE12XueBXueC12Xue9XueA12Xue7Xue812Xue5Xue612X",
    "ue3Xue412Xue1Xue212XudVXue013XueF1XueI13XueF0XueG13XueF2XueE13XueF4XueC13XueF6XueA13XueF8Xue813XueFAXue613Xu",
    "eFCXue413XueFEXue213XueFGXue013XueD3XueI13XueD1XueG13XueD0XueE13XueD2XueC13XueD4XueA13Xub1GT1265120X813X51X2",
    "125E12BP122I13HIZL13Z4IZJ12ZCO12Xk_SXvQ12YXQew112YfMfZO12Yr9ZgQ14Yf1anLd_9rY812XyiRT12QP12XrMXrL12ON12KJ12KH",
    "12ML12A91323M141F3M128J12GF12XrCXrB12XrCXr912CB1287122X413T5X413P9X413X52X413BNX412Xq4XqV122112FG121212BE122",
    "112XqUXqT120012JK12341300ZL13Z2KZL12ZMZL13ZI4ZL13ZM0ZJ13Z0KZJ12ZKZJ13ZG4ZJ13ZKmwGmw314BmwGmw3a112ZST13KAT13O",
    "6T13CIT13X2X1615SX16mx2mw3161X16mx2mw3a112ZS6129A12XqIXqH12BC125C12FG12XqCXqB12HI12LM12HI12BE12HI12XqAXq912J",
    "K12NO12JK12NXrS12XrNXrO22XsDU12R01202141mx4mwJ7225312AX412X1D12EG12DA12501204123I12F212141336F12AO12LL13M761",
    "3245128F23G05126412211226122X913X8mvUmwF13Nmx8mwF12ZNXox812Xox5Xox612Xox3Xox412Xox1Xox212XowVXox012XowTXowU1",
    "2XowRXowS12XowPXowQ12XowNXowO13Xox71XoxA13Xox70Xox813Xox72Xox613Xox74Xox413Xox76Xox213Xox78Xox013Xox7AXowU13",
    "Xox7CXowS13Xox7EXowQ13Xox7GXowO13Xox53XoxA13Xox51Xox813Xox50Xox613Xox52Xox413Xox54Xox213Xox56Xox013Xox58XowU",
    "13Xox5AXowS13Xox5CXowQ13Xox5EXowO13Xox35XoxA13Xox33Xox813XotRBMyo11YozA2142142142142142142142142142142142142",
    "14214214214214214214214214214K1X821421421421421421421421421421421421421421Ynb1114a51YnjE21421421421421421441",
    "821421421421421421421421421421421421421421421421421421421421421421421421421421421421421421421091M21421YbW511",
    "YbWC21421421421451A21YooD31YooO21441821421421421421421421421421421Yoq511J11A11M11321Z811XD11XC11YqhC11XvR214",
    "21421421421421421421YT11Yon311jmO11YbZK21421YosB11YosI21421421421421421421421YpZVL1oF11V11611M11YpuA31YpiT11",
    "YOx31Yoz811YX011YqiN11YqkEA1Yqi971en611211211211211211211211211211211211211211211211211211211211211211211211",
    "211211211211211211211211211211211211211211211211211211211211211211211211211211211211211211211211211211211211",
    "2112112112112112112112112112112112112112112112112112112112pg11XybI11or711pzC11XW311k_D11mfT11Yx611XbxE11011X",
    "ZaL11ye011-aJ11Xy211agS11gd611anO11ZhK11tM11pS11ZvE11peP11XnI11XxS11XmA11ebU11coQ11aeE11XbsT11Yl611huU11ZnE1",
    "1gX411h_211XWiR11ffM11g-411XvE11pfL11lmU11ZaE11qr911aaQ11Zb611Yv411kz411XWqF11XZ211oE11e-C11ZWU11ZpQ11YjE11a",
    "nK11ZWA11bC11Zv611aq611YZQ11XeM11osR11l611YY211ZYI11dpM11btM11fwH11u_D11ZYA11krO11YXS11dXN11ZcG11f_G11bZA11_",
    "XT11XuK11cx211XyE11pA11dY011mG11iX811XXtH11sxI11tgT11V11qb011Xw411ZZ611fe811bl911qh111Zp611mlO11-i911cwS11YY",
    "M11ftA11-I11nbH11o-811qpN11d-K11evN11lhU11Zr711hwK11qrT11YfM11lg611cqG11Zc211lkV11n_C11noF11auJ11l-E11lq911e",
    "yA11phD11XhM11c011hhG11gcC11YuG11ac611ZlQ11_jJ11qQ11Yp211YtI11ZjI11bZI11aoO11ke611YhQ11YYQ11ZE11XcZ511gYM11Y",
    "h211n-M11ukR11XnO11d011XfK11beI11XYC11Xq011Yq211YYK11XdM11dhE11bZF11bpA11XoE11XWp511eO11XXK11kWM11h_K11-G11r",
    "-111oO11XuC11aZ611ef011aiH11of111aXA11YkS11z611Xc411fvC11hE11bp211gO11e-S11Yi411b411j011XaeP11rY611iWC11Ym81",
    "1wzD11fbL11Xb811bn811b211arK11YcI11ZyO11Yd811dhK11bu011dn211ym911twC11XXw911gl411dG11YqS11rM11YsQ11r011Xn411",
    "YgA11jqS11XZl111ei211waK11XZaP11ckS11ej211mq011tvT11xI11Zj611bt011nlU11XYbP11-C11abC11awS11pM11rK11YZQ11Zo21",
    "1zO11avE11arC11X411akM11YnC11XXw511jtM11jfP11kx611XiG11es411egI11Yx811XaG11xmF11ZZ811gXQ11ZnP11bA11t411az311",
    "XYD11jhU11-fF11wdC11ulN11Z511cfU11YYQ11jW611mr111evI11ZcJ11qeE11ZkT11dW211ci311rhF11cv511Ye031XfK21dXK31gfB1",
    "1mqO11Xw011Xd411Y411E11YK11kyE11jfF11XlU21ZbA21YkC31Yq011iA41Z_411Q11YO11YeO11cjB11YzI11XZmH11pI11cC11tO11XM",
    "11cQ11XaO11cI11c411zG11cG11XxO11K11YYC11j811YC11c811XrQ11f611gU11_811Yl411g611mG11XaO11hQ11_E11YcU11gQ11M111",
    "11G11C11E11Z011211h411a211pU11XZ811XA11ZG11p211f611-G11eO11011zS11YhI11eC11sM11ZG11vK11ZA11XgS11e411ZgM11nO1",
    "1ZO11xyB11dndI11dWjB31v_311XuU11aP11-F11yA11ZM11qE11Z611Xg611aF11a811aI11XdG11bI11f211X011mS11iC11XwK11E11f0",
    "11a811oM11dC11aB11eC11YR11f411a411v011bG11ZC11m811nS11g611811ZM11YY611a211uE11vK11V11bE11lO11r011ZZI11Yt311d",
    "K11dM11qE11fA11ZA11k411411gM11X211XI11bC11J11uO11-A11mU11hM11k011fI11qK11iE11XqQ11fQ11XuK11yG11aA11X011oI11Z",
    "I11YP11ZC11511X111aO11b211tS11XZ011pK11oE11jQ11YWC11cE11d611eA11Y811O11Z011XjE11YeK11cagS11B11bv211dyZF11YdM",
    "11Y211efX011beE11nW611dluV11aMX72YloF01206125C13B061350C12E21212D2Ym04123T12UH12X6F123D62cOY922ZSZL11YM11X31",
    "1611211E11211211M11411YxT12YxSYF12YGYD13YEYPA13YGYPC12SXH12XIXF12XGX712XAX912XCXB12XEXD12XGXF12XIXH12XKXJ22X",
    "OXN12XQXP12XSXR12XUXT12Y0XV22Y4Y322Y8Y712YAY922YEYD12YGYF22YKYJ12YMYL12YOYN12YQYP12YSYR12XIXN12XGX312XOXN12Y",
    "AY912X2O11fA11011K11011011011611011011011411011011011B11011011011A11011011011B11011011011YM11011011011411011",
    "011011Y311011011011111011011011611011011011211011011011C11011111011411011B11011X011011D11011XG11011011011C11",
    "011011011811011011011311011011011I11011211011011011A11011211011011011511011011011X8110112110X21YB11011011011",
    "XK110111110114110121b511bE11011B11011811011E11011011011eD11012Y521212121gU12gTgU12gTY412Y3Y412Y3g212g1g212g1",
    "g012fVg012fVg412g3g412g3gK12gJgK12gJgK12gJY612Y5Y612Y5Y611e611011011012gBC12BE12DXU12XTY612Y5Y812Y38127A129C",
    "12BXQ12XPY212Y1Y412XV412361258127XM12XLXU12XTY012XT2121XK12XJXS12XRXU12XR2121XI12XF1122XG12XD31241122XE12X3D",
    "12EB12C912AX412VF12GX012TJ12KH12IF12GU12RJ12KS12PQ12NP12QO12LR12SM127X912XAX712X8X512X68127G12FI12FX912XA612",
    "5E12DG12DXN12XOXD12XEXB12XCX912XA21214123C12BE12BXF12XGXD12XEXB12XC2121A129C129XH12XIXF12XGXD12XE01208127A12",
    "7XJ12XKXH12XIXF12XG112261258125XL12XM312441236120XR12XSXP12XQXN12XO912A1122012XJa012ZTZU12YDYE13ZaVZYOA13ZZ1",
    "ZYQ813ZZ1ZYS613ZZ1ZYU413ZZ1ZZ0213ZZ1ZZ2XU12aJM12LO12NXU12XTY012XVY612Y5Y812Y3I12HK12JXQ12XPXS12XRY212Y1Y412X",
    "VE12DG12FXM12XLXO12XNXU12XTY012XTC12BE12DXK12XJXM12XLXS12XRXU12HG12FI12FE12DG12DXN12XO21214123C12BE12B2121A1",
    "29C129XR12XS0122X912XAX712X81122012061258121YE12YBXH12XIXF12XG912A71281122012Y7C12BE12DG12FXU12XTY212XT8127A",
    "129C12BXQ12XPXU12XP412361258127XM12XLXQ12XNXK12XH2121XI12XF1122XG12XD3124XE12X3D12EB12C912AX412VF12GD12EX012",
    "TJ12KH12IF12GU12RJ12MQ12NP12QO12LR12SM127X912XAX712X8X512X68125X912XA6123XD12XEXB12XCX912XA21214121XF12XGXD1",
    "2XEXB12XC21216123XH12XIXF12XGXD12XE0122XJ12XKXH12XIXF12XG11222120XL12XM3124YI12YBXR12XSXP12XQXN12XO912A512Y1",
    "XU12XTY212XTXQ12XPXU12XPXM12XLXQ12XNXK12XJXO12X7X412X3X812X5X212X1X612721214121212211222126912A513DS613X1U41",
    "3X1X0212XJX412X3X612X1X012VX212VU12TX012XDXC12XBXE12XBXA12X9XC12XPXO12XNXQ12XRXQ12XPXS12XNXM12XLXO12X9X812X7",
    "XA12X7X612X5X812XBF12GD12EB12CX212X151243128712A912CX412X3X612X1X012VX212VU12TX012XDXC12XBXE12XBXA12X9XC12XP",
    "XO12XNXQ12XRXQ12XPXS12XNXM12XLXO12X9X812X7XA12X7X612X5X812XBF12GD12EB12CX212X151243128712A9126F12GD12EB12CX2",
    "12X3X812X5X612VS12X3D12EB12C912CF12GD12EB12IS12PQ12XRY812Y7Y8J3Y14XI13XL61133611336XG13XL8XE13XLXMXH133XMXF1",
    "35XMXD133XIXF131XIXF130XGA13XPXG813XBB113ED213CDXQ13XBX4XF13CX4XF13CX4XH13EX4013X3X4013VF013GF013GX0013X1DXG",
    "13X1DXG13X1FXS13XBX2XD13CX2XD13CX2013X1X2013THXO13X5FXE13TFXE13RSXF13KSXF13KS013RSA13X1PXI13NO013NO013NO813T",
    "M013LMA13VM813FX5XE137X5XE1356XF13XA60131XDXG131XDXQ13BXDXO139XF013XGXF013XGXBXE131XBXE1312XF13XE2XF13XGXF11",
    "3XIXFXG130XFXQ139XH213XGXHXI130XD313XIXDXE330XH413XI3XH13XM30132XHXG132XHXO135XJXI132XJXI132XJXQ1351A1371813",
    "29013A9013XPCXO13XV4XS13XV4XQ13XT8XO13XV8XM13XTXMA13XVXM813XPXIA13XR2XO13XPXI813XB9XM13X7FXQ13XBDXQ13X7HXQ13",
    "BXFXS13B2A130XPXQ130XRXS1309A1390A13F6A137XHXQ13F6XF13XEXDXG13NOA13D4A137XJ213XGXDXO13BXFXI13340131XFXI132XJ",
    "21312XQ13XP1XS139XHXS13H8A13Y3AXQ13D4013NPXI13VX0013X39XO137XJXSX93X9UeS13eV4eS14gLXQ0614XVXOXLI14X8XFXGXB14",
    "CULO14X74XA714LMC5142X9X2213VUA1IX7UAZYHZWEXQ06ZYDZXIMC5ZYDZYGX9X2218XHXGZY7ZWOXGXPXQ614XBfMg9XQK1ZXF11tzA21",
    "tyD11211XJ11XS11tzE112P1eW511111lx711011ZD11211b411411tvE11211911211D11211511211611211211231tx711412ZPXkA12X",
    "k9XkA12Xk9XkA12Xk9XkA11XgB11011011Z511tzA31tyB11111A11XR11l_611l-N11211b411411tvE11211t_311611811211411U1141",
    "1121XU11ZF11211XM52XVZYM12LM12ZYLZYO22ZYNZYQ22ZYPZYS12RS12ZYRZYU12TU12ZYTZZ012VX012ZYVZZ212X1X212ZZ1ZZ412X3X",
    "411Z11121101121101121101121101121101101101121101121101101101121101121101101101121101101101121101101101121101",
    "101101121101101101121101121101121101121101121101101101121101101101121101101101121101101101121101101101121101",
    "1011011211011011011211011011011E1101101101121101101101121101101101121101101101121101101101121101101101121101",
    "1011011211011211011211011011012BY312Y4Y312Y4Y112Y2Y112Y2XT12XUXT12XUXP12XQXP51ZWB112112112112112112112112112",
    "11211211211211211211211211211211211211211211211211211211211211211211Y211211211211211211211211211211211211211",
    "211211211211211211211211211211211211211XT1121121121121121121121121121121121121121121121121121121121121121121",
    "1211211211211211211211211211211211211211qmE11211qrF11tzS11211N11lK11H11b111411411411411ZK11411411Y711ZI11bJ1",
    "141141141141121141141141141141141141141141141141161141141141121121121121121161161161161161121121121121141141",
    "1411211211211211211411811bJ11221lvJ11211gI11gF11gK11211gJ11211211gM11211211211211211fL11X711211211XI11XF1121",
    "1211211211211211211211241aU11211211211211231211211211211211231211211211211211231211211241ej511211I12eNXk811X",
    "bR11111mW821YbI11Xt311211211211YWQ11YMXWI1ZlbQ11211211211211211211211211211211211211211211211211211211211211",
    "2112112112112112112112112112112112112112112112112112112a91eI112112112112112112112112112112112112112112112112",
    "112112112112112112112112112112112112112112112112112112112aT1fO1121121121121121121121121121122141121121121121",
    "12112112112112112112112112112214112112112112112112214112lC1aXkN11211-L11x611aB21b011Yqi611Yqi111111aR11211jp",
    "K11jpH11C11aM11a911311311ZM11t711tA11Z911XQ11YC11211ZT11dkfG11axtB11YonV11dkfE11dkdD11dkdG11dlWR11tS11211XWB",
    "11XWI11dkeS11dkeL11211411YG11311Yqi211YqhV11XT11q-I21q-311X411211J11jF11211211dkqG11X8Xc61ZfbR11211211211211",
    "211211211211211211211211211211211211211211211211211211211211211211211211211211211211211211211211211211211211",
    "2112112112112112112112112112aU1dS112112112112112112112112112112112112112112112112112112112112112YvR1bpM11211",
    "2112112112112112112112112112112112112112112112112112112112112112112112112112112112112112ri11Xgu2112112112112",
    "112112112112112112112112112112112112112112112112112112112112112112112112112112112Y11ZO1121121121121121121121",
    "12112112112112112112112112112112112112112112112112tmU1btd311211211211211211211211211211211211211211211211211",
    "211211211211211211211211211aJ112112112112112112112112112XZ52denSS12PQ13PQI13XBQK13XDQM13XFQO13XHQQYN2aEb712b",
    "Ab913b8b7I13aOb9I13aMb7K13aMb9Ko01demR1121121121121121121121121121121121121121121121121121121121121121121121",
    "1211211XH11211211211211211211211211211211211211211211211211211211211211211211211211211XH11211211211211211211",
    "211211211211211211211211211211211211211211211211211211211XH1121121121121121122141121121121121121121121121121",
    "1211211211211211211211211XH11211211211211211211211211211211211211211211211211211211211211211211211211211XH11",
    "211211211211211211211211211211211211211211211211211211211211211211211211211XH2141123163161123161121121122141",
    "1211211211211211211211XH11211211221421411211211211211211221411211211211211211211211211211211XH11211211211211",
    "211211211211211211211211211211211211211211211211211211211211211XH1121121121121121121121121121121121121121121",
    "1211211211211211211211211211211211XH11221411211211231611211211211211211211221411211211211211211221XF11211211",
    "211211211211211211211211211211211211211211211211211211211211211211211XH1122141121121122141121121121122144181",
    "1211211211211211221XF11211211211211211211211211211211211211211211211211211211211211211211211211211XH11211211",
    "211211211211211211211211211211211211211211211211211211211211211211211XH1121121121121121121121121121121121121",
    "1211211211211211211211211211211211211211XH112112112112112112112112112112112112112112112112112112112112112112",
    "11211211211XH11211211211211211211211211211211211211211211211211211211211211211211211211211XH1121121121121121",
    "1211211211211211211211211211211211211211211211211211211211211XH112112112112112112112112112112112112112112112",
    "11211211211211211211211211211211XH11211211211211211211211211211211211211211211211211211211211211211211211211",
    "211XH11211211211211211211211211211211211211211211211211211211211211211211211211211XH112112112112112112112112",
    "11211211211211211211211211211211211211211211211211211XH11211211211211211211211211211211211211211211211211211",
    "211211211211211211211211XH11211211211211211211211211211211211211211211211211211211211211211211211211211XH112",
    "11211211211211211211211211211211211211211211211211211211211211211211211211hE11mC31tK112112112112112112112112",
    "11211211211211211211211211H11M11211211211211211211lZS11lbB11211211211211211211211211211211211211211211211211",
    "411011211211211211211211lZI11laP11611411O11911111T11211211211211211211211211211211211211211211211211H11M1121",
    "1211211211211211lZS11lbB11211211211211211211211211211211211211211211211211411011211211211211211211lZI11laP11",
    "611411O11911111T11211211211211211211211211211211211211211211211211H11M11211211211211211211lZS11lbB1121121121",
    "1211211211211211211211211211211211211211411011211211211211211211lZI11laP11611411O11911111T112112112112112112",
    "11211211211211211211211211211211H11M11211211211211211211lZS11lbB11211211211211211211211211211211211211211211",
    "211211411011211211211211211211lZI11laP11611411O11911111T11211211211211211211211211211211211211211211211211H1",
    "1M11211211211211211211lZS11lbB11211211211211211211211211211211211211211211211211411011211211211211211211lZI1",
    "1laP11611411O11911111XQ11031XwP11211211211211211211211211211H11211211211211211211211211211H11211211211211211",
    "211211211211H11211211211211211211211211211H112112112112112112112112112YXH1X_E1121121121121121121121121141121",
    "1211411211211211211211211211211211211611411211YnZM11YmwV11e511411f211ZJ11Y011fT11211211211211211211211211411",
    "211611211411411211211211211211411211aC11ZL11111K11aO11YmwC11YmvVYaJ1dod2112112112112112112112112112112112112",
    "112112112112112112112112112112112112112112112112112112112112112XcV1dnnN11211811621XI11XB11911K11X611D1121121",
    "1211X511C11G11N11Q11X111611J11211611411C11411411Z811aO11XH11Z321aD11821XM31XJ21XQ11D11211211211X511C11G11N11",
    "Q21R11J11211621G21871R51221XQ21B21411X511C21711Q21R31B21G21821e021aL21aD11821XM31XJ11K11X611D21411211X511C11",
    "G11N11Q21R11J11211621G11411411Z821Z621dJ11211811611XG11211XB11911K11X621B11211211X511C11G11N11Q11X111611J112",
    "11611411C11411461X311811621XI11XB11911K11X621B11211211X511C11G11N11Q11X111611J11211611411C114114o62ZWJ712A91",
    "2CB12ED12GF12IH12KJ12ML12ON12QP637ZIZF131ZKZH131ZMZJ131ZOZL131ZQZN131ZSZP131ZUZR131a0ZT131a2ZV131a4a1131a6a3",
    "131a8a5131aAa7131aCa9131aEaB131aGaD131aIaF131aKaH131aMaJ131aOaL131aQaN131aSaP131aUaR131b0aT131b2aV131b4b113t",
    "-Mtw1tw411tx311U12T212X6621XH11211211211211211211211211211211211211211211211211211211211211211211211211212X3",
    "S12HI125T12U01350C122X7R2KJ12KH12IAX42RCZG2uX2YV12cG0114E1uvC11Zl711ZuL11nm911kyA11beS11uiI11uhJ11be911htO11",
    "bm211buF11fqN11cpU11c_T11gY611fv511roA11aY511huK11vxH11YhD11jjM11cdT11i011gr911I11XXa211vc711dxH11YyC11dn811",
    "rcI11rnP11hoS11lI11pd311jdG11ZtD11111dYM11ni111Xq811zvE53XmpHxnGxnD131k_Ak_7131ldGldD131rtArt7131XWgAXWg7131",
    "vZUvZR131XZi6XZi3131niIniF131wq6wq381tu411bwFYiV1XfxT112112112112112112112112112X_W71XdW811911I11cvk211cuy31",
    "1aS11Q11aE11dG11XU11aS11XF11kZ111devO11cwkP11E11X011X611cvwA11dec511kgS11YC11cvxS11cvx711Q11XjF11Xk011I11fWY",
    "K11e_-J11S11ko711krO11M11YO11A11ks311kx411411XM11XC11M11211X211Z411G11I11XI11K11411011011cxgQ11cixN11kgB11XA",
    "11cxu811cxtF11C11XA11fG11cB11X011Y011ZK11b811XK11a611X011Y211011XA11X411G11U11r811mV11n211iB11Y611YcP11ZkE11",
    "nV11YC11XI11e311gE11111dM11c-ZG11cz_311A11U11X811G11a011c-qC11a411c-lR11YU11O11aT11eS11ntF11S11oWO11ZC11011c",
    "_eK11c_W911XA11U11O11c_oA11c_nH11E11XqQ11Xp111og111ojU11S11b411Z511dWrE11dWg111dWg611dWdF11511X211cA11211ox5",
    "11oyS11YM11XA11YO11pWD11dqo211dqmD11pZ811611611X811fYiG11fYf711dYZ611011cmoV11njT11011pbL11dy_211to411eXdF11",
    "I11peF11phE11Z611K11Y411eG11pqD11XR11ptG11dZa011dZWP11e211811411311YS11X811Y811R11M11YU11X811811XK11M11a411b",
    "811Y611dO11dZxO11dZyT11a111cO11XM11c211daWQ11dZyT11bP11XN11qtL11rZM11XA11XU11YB11rWL11rk611XQ11dbfS11dbYD11n",
    "A11gT11roV11rtG11ruH11Y711hgS11611gsM11c711jX211-j711npS11811C11ZQ11L11dcd011dydJ11sh211d911iQ11Z611db-G11db",
    "zT11cT11lA11stD11swA11c211aE11hS11db_M11dbyF11ti511tmI11dcuC11dcr511tmB11to811YQ11XM11211ddj411ku311k-U11ddg",
    "N11decS11dd_P11S11cB11gU11YG11ZI11ZB11YG11U11Q11ddvI11dd-J11lM11ZU11upL11uvG11711deWK11dejF11tA11dd_011Z011d",
    "dyF11d611XL11511ve911vh811Z611B11ZC11cgdG11cfzV11denS11deiD11dfWU11deu511Q11XM11dfxG11dfuF11XA11dgg011jU11dg",
    "fJ11X211wjT11wlI11wkP11011wuU11XA11XA11X811aA11wwT11xWI11dhn411dhlF11dhr811dho311csYU11cruT11div211XE11eO11e",
    "eaF11O11xkO11di_U11111YE11XK11djX911211011YM11xn111xr411xq911b011efuE11djyT11ZS11a011x-H11egq611dkiV11dkq811",
    "YM11dkpB11bO11yhN11yn211K11A11dloQ11oM11011dlxH11ykN11eiwI11dl-911611yw311ejbI11dlwR11zZ311zaG11911XQ11dneC1",
    "1dnY511zc311ziC11ZM11a611zn111ell811XU11elkR11elu011dnrT11dny811dnwH11cA11M11dojA11aI11doi511doqG11dopF11cvk",
    "U11dtuJ11-jQ11b211-lF11-p611peH11ecl411S11wY311I11cuvL11611cvK11Xbp511_YC11B11X411t-J11t_S11411K11YI11dqbC11",
    "dqbD11ZG11aC11aK11eJ11fK11YK11d011m711dE11411X011dqbK11pA11fB11epwJ11_yC11411Y611dth811dtcB11dqyG11eqyT11811",
    "erb011o211ersD11XWkA11O11M11411a011Y111eC11YN11fE11b111a611XM11XWwT11XXWK11Y011XXWF11XXcE11611dtW811dsuV11E1",
    "1XXgH11XXiA11XgZT11fX_611hG11evgF11I11XXzI11aQ11fQ11iM11dub611dt_P11XC11bK11bO11duxG11XxoL11bzZH11T11Z811bzk",
    "S11bzWJ11c811dxfK11XM11dwrH11bQ11Y011dxXQ11dxX511nQ11fU11211bN11tQ11XO11dx-A11dxcT11Xb_B11XcY411dxy011fXv111",
    "XcjQ11yn111yt211dzY411jA11fZwN11G11XcsK11d-YK11farF11fa-811d-eL11011XS11d-uQ11d-j711XcwT11Xc_C11dS11XM11ZO11",
    "XdYV11fds411eWXR11oS11hQ11XeYT11XU11XedK11eXsE11ffzB11fgWQ11mI11e611eXzB11Xes911Xew611A11E11K11E11YA11eZiA"]
  decodeMappings 0 0 numbers.length numbers

/-- What a character stands for, if a name can have it. -/
def meaning? (c : Char) : Option (List Char) :=
  if c.toNat < 0x80 then some [c.toLower]
  else if refused.contains c.toNat then none
  else if ignored.contains c.toNat then some []
  else
    match mappings.find? (·.1 = c.toNat) with
    | some (_, targets) => some (targets.map Char.ofNat)
    | none => some [c]

end JsonSchema.Uri.Name
