import JsonSchema.Unicode.RangeSet

/-! The versions of the standard in which characters were assigned, private and reserved ones among them. -/
namespace JsonSchema.Unicode

/-- What each version added, under the two names of the version, in order. -/
def additions : List (List String × RangeSet) := [
  (["1.1", "v11"], .decode [
    "0lL4TXOYO7XE19MY5Q1I1403056101J1XB16301010101HDB1Y11B1X89XK21213R2721XNX5261X610X6918CQ54N0E0301P5IDD2Y7241E",
    "1T29m721XK2H243OG217212L161033201621229041142K7025412L1611111120144122B3107EC21610121L16111429121220F059H217",
    "212L1611232731228141124AH11532133110113132371244321390FBE217121M1914461213719149I117121M191446121371701149I1",
    "17121M1F452213908149aHXP4SX51102110206316121010211C122410152921k2X5AX6404YP5Y35YHZW6aQ5YP6L252X525271010101U",
    "2XK1E1D251I22181XE1MX363QHAX5HUXOQXFDYQLdHE01ZOa5X4RALaALaLAYFGJ6YLaH3132R1X21013301626EU3N1DYY1XN701YJ452YT",
    "6X74YT1FZ0S3X3SR3XHFB4XE1ZM4Z22Ucm1qj5mYQcnDcI6C46O141011111ZBX1hCGXV2XLX8BX43CK491I1342101a6201YT2YT3525252",
    "23616E2"]),
  (["2.0", "v20"], .decode [
    "XiHG1CK0YfRY71X07Q45101K3610Zt10mF0XYwKgz3YgYQ1X__U1X__U1X__U1X__U1X__U1X__U1X__U1X__U1X__U1X__U1X__U1X__U1X",
    "__UaWW1"]),
  (["2.1", "v21"], .decode [
    "ebC0XtwF0"]),
  (["3.0", "v30"], .decode [
    "lM3U72HZL4XH0A4YN8J0ZK030101010U0C0Y20C0XA123YS1aS0c82Z2150F0XA41D1T3QXLXGXkH11H3N18102630451017I2hL0XB0N270",
    "121E20XGX1141116336Pj661XU10132610132X610132U101326101326161M1U1013261X61I6RX3YKCpL9S3YGaFYS39ME196YN8X9Xy50",
    "O5YV2XI1YL1Y80Z78eD0ZP01TaA1k97X10YM1iEdVXi0P1YOCcLQBXS230h1No8cjLqoAXaC3H2F1B1210roM0XcR2"]),
  (["3.1", "v31"], .decode [
    "_K1X-kQVXeGU13CQbLX52X5XozIdLAX63bJn2YK1Y6112021231B1013111Y01327161R131410361gH4f14XHgW0XfsMqf9mTsXl30UYV"]),
  (["3.2", "v32"], .decode [
    "n00fE0JCZ81S0aJ1XP12121XHFgU1g10Yg51Xm7C16BM9JCC1211YcJ0644074D0XU1XI6YIEb8BdIDZS0UXJeSJaN9YO7M1YQB29cUDYQR4",
    "Fe0lVXfR2YN181YU0dGFYHEYHEyl21G0C030rhAXQyH03FXL1XC0dB1"]),
  (["4.0", "v40"], .decode [
    "n10I2ZN1XVGYG752aN4m4398Y02aL1F0XD2T2jK0bO0Y3010a80YK2D0Y30XR0a17c11YuV0I9e6S3B4B403X924ZBVu0ZBt71d60qJ1fE0e",
    "K1ZK7E1XYUDXuF1XH0XB1YE3b73Z31V0ck0XVXh_T0Y91jNB1P1I111E2DX2ZQ524XC38o0T10a61X6YF29wM5201XB113020Xos0YMhA0uh",
    "XUdF"]),
  (["4.1", "v41"], .decode [
    "nNAeM4aV3dM1bA0X22Y30I0XQ5dHTmF0YG0l70XF0_91f7110eA0XV0XV0X70V0V0V0F0X70N1VPXl6X96P6941X0R21wCYNqH116XH4T3XL",
    "0YG0F0q4AnS0Z51IA5FeE6w75dCXE1XEX1ZAEXCAXL90GM9616161616161616X1N41z2FbE0xf7LXw4Md9XBqo4Z9vM9v6YAmLX34DXnA31",
    "157121Q424888Xnz7Y5XYU1"]),
  (["5.0", "v50"], .decode [
    "o2DfB2gH0XA5G3b60m5XQi0111x21D1ZmDYB4XCo76XJ1tC3YT1XL0oNBsA0eK3w9653fSC73-qV351eUXNua8P50bt0xEaHZ2D3XhtCHXYO",
    "1"]),
  (["5.1", "v51"], .decode [
    "xG321YN0bN0aCFd24B4X04fEHlH1cU0X30cE0T1ZC0ZC0Q181K7bT060T1C536lB1Z1032YD050207245QXV41YWA0sLXA3BY6XN3E3XIgBR",
    "bL3YQ5h40aB0YU0XL3XeK0L933e80V3vB44X834eO21245h2VO32ItS0b2JxkO7XfSfBKV2H8Ra342ZAZE4a0Y49BX6YJB0b0XM9D2923q-4",
    "2x9BXKXDa2S3XGXoFP50Xn_90dsMXB4Z3"]),
  (["5.2", "v52"], .decode [
    "Xf41sQXD2Ec10YD060X31a00XkP3c13bS4Y44YI5m00pM8nGY5bK1XE0Y5XU1S2A696Dn2X2eA0rO2aN2XM0oU0rL1T2491I104NYN0_T4eM",
    "0D1ZB6fV0XWIBxhK7Xe4XFj0YNfO9b6RZ4S3YD1A41a0R4Y2O4d0XD29gzMM4XGepF2ZkIL18bQ1g4Va0XL3S2Q57a0Y8mNUm1Y1dvUXXEXl",
    "cHA5U20B0102030348070P01120A320ZF0FX1E8XjbNaXK"]),
  (["6.0", "v60"], .decode [
    "Xf61dO0XU0l0R20cR1J061R4lQ5jH0G0J0nT3Y91y21YZ1XJ83lS0qO7S0vFAsQ0J013T041S0X30104291XK2O0E0E1Xj00E0XXO2zb51fB",
    "111E9YG0u6525259616qa3FbXUYD4TryGnOnk71maUE2D2E1EYG01A10111212571619681021194119YBP11XF8L1bEX0F51Y53JCX414LG",
    "FXU101bL133XTINaJ41F1210101012152310231B4AXGY5XQZJXl-CcT"]),
  (["6.1", "v61"], .decode [
    "XiF0ZK0qR01AXNQlH0_D1l7050XF2YrB2C5e07XB3YsK010Xf41XJ050XO1cA9yiG0Xr77X30dI1M0YD1t6MpvN1ZwGXN61XuGO796XK1DXS",
    "Y879Xb6XN89sXMY4BXEGG_p031Q1110201913101060401010121110201010101011102316131310191G52141GXK1pO1-K3bS0G030101",
    "0103061401140"]),
  (["6.2", "v62"], .decode [
    "ebQ0"]),
  (["6.3", "v63"], .decode [
    "XmS0co93"]),
  (["7.0", "v70"], .decode [
    "xV0j87YT1ZM0qR0B5YC0ZO070pV0XJ0YC0ZV0d49Ye17n41iHEnP1dDEs52vM6u50XYC2AP2V2X13B17pA6-YL5dMBB221Y50l8UZT3bGXF4",
    "1qs16wT1J0fVRX30XGXAi5X78XJB0aGfM9LA7dOXU88kGVX0X64Ba9H73C6XcF0cGX6YM0C06JBH1XAZIXQ597217212L161114282122905",
    "62634eBY789b6XL2HXMY4B9o6YIC0k0XOYZMX9cAB50nkBU1941Z0T25AY5A9161K5IqZGZA5C387927gwSc42FX_80X0LL1mKB90Y60MBX5",
    "0535BH6Y7010bM041XV146TH1X81YLY61DXFY69GC33aCYKXBB4XN896X78T"]),
  (["8.0", "v80"], .decode [
    "YbJ1XE0mL0h00e40XqL025Zc00cB1Yp03y-T8Xs80dG0X25g41p23CYFqpE1YrGI1154bS12F2XDq0XIDXI75Xc93E4b0610131E1AYM0YF0",
    "pPJf2P3E4FZYP0d6c3drSo6XYyNAXmNqBF41EcZT2YE1YF4X47dV0YB4dJ1aB0nV8Z74XR0XloVbq1"]),
  (["9.0", "v90"], .decode [
    "YbM7MEyT0cE04216N2Zu78hI0XlV3Yo41-h90eM0sc71v1X34X3Zg20k1YP1010m2CXiJ81XC1DAS3V2L1Dqv90Vb_CJtIreD61G261114Yc",
    "LYA5941YXRHaE0vU0X90fC1X12n2517802B1B4EX6C"]),
  (["10.0", "v100"], .decode [
    "YZ0AiH1dS5m00XQ1ZzQ0dU3s50vV0X-I0pI4t40xr7Kuw22bsGY78XJ2M14oT6111XB30111889qq70mX0eSYHiBlx45XZD1X21m7BJ08711",
    "P0ICX65XOMXrc9dfG"]),
  (["11.0", "v110"], .decode [
    "Xh00X70Z60mD2cJ0fA0ZN0iD0ZV0Y_J0XWNXA22ZtQ2MO4EoB4t00xrR4XzV081g41ufK1I0rNX789k6X78X9hJ0ZM2lK0f20rR0d5XRp10s",
    "25111X4111579fMOpw7YQcgI4otEJZU6cdOY3XZQ0Xk90cR3hK2S4233013OAD971X4OZ0D"]),
  (["12.0", "v120"], .decode [
    "ZZN0mE020201540707120D0ZnV0ZsE0XL0oF0-hA524yV1vZOMXZ80oO0t772XD2AaV1XfQXHD0bXG8kuC540XF8YQ1cWE5ggO2H3hyOXC3D",
    "2941hGXP50XoB0zLXSXXE0Xh80X40d5Bf12XF0XH090X9531A53722XGYJS34252D5"]),
  (["12.1", "v121"], .decode [
    "itV0"]),
  (["13.0", "v130"], .decode [
    "YbU9qD0jE0ZS0ZfT1acM0rO2x84c_M9qnGCX-A3XA1XL0vR3rnG0Zd3X91221dURhR0a61qA051XaU62027111T112B99XoM0qXJ0B1cu1l2",
    "XA8vW42YT2XT0Xf81X31jJ1YQ0Z5041XA162T0b80E3FI7692D6X9aI1XMX59XgsT6sf2awA"]),
  (["14.0", "v140"], .decode [
    "XmT0oIU1167L0IAx90X00ZV0YnF07090dF0rHDZT0XG1pR0s50YxE0XF0lJAyiV2X-01E11014O2q-D0hTFZV0XE1XxGA1E16111A1E1611k",
    "351X918XzLPd65YC0XlM0a66x9FbcGZ2kpTYE19nf631611f03dkTXD2M9ZJn51ZeLUxHUXfH613111EZsU2eG0i80YI0bE1XC3A382H2678",
    "6Xg_71aYL3"]),
  (["15.0", "v150"], .decode [
    "ZdJ0kQ0YWXE2vV2YbU9_MG1X83RbcL09S_cS0X20ehAJZYH5e5XTX10XY0X9al20aN244YP0qR2F1X42B210E1A1C0E1XlY00tWMaYV"]),
  (["15.1", "v151"], .decode [
    "h_S3lF0bkm0pD"]),
  (["16.0", "v160"], .decode [
    "YaN0arM1XF0e91XyS2ZjQ1zl52C2tl3XJXwCX53S81fI2XN0Xa3910201X519102013191181tDJXcSX1E9x00be5ZyQde5XPZW6XPdy50lu",
    "0dP6jJbuSXA40arI941k7050XE070L02090d1X4"])]

/-- The additions of the first versions up to the one of a name. -/
def additionsUpTo (name : String) : List (List String × RangeSet) → Option (List RangeSet)
  | [] => none
  | (names, added) :: rest =>
    if names.contains name then some [added] else (additionsUpTo name rest).map (added :: ·)

def assignedBy? (version : String) : Option (List RangeSet) := additionsUpTo version additions

end JsonSchema.Unicode
