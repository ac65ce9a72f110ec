import HomePanel.Unicode.Ranges

/-!
# IDNA mapping table

The status of every code point in internationalized domain names: valid, mapped to a
sequence of code points, a deviation (kept as it is by nontransitional processing),
ignored (removed), or disallowed. The statuses are those of UTS 46 version 17, carried to
the later Unicode version the domain name data follows: a code point unassigned in Unicode
17 is valid unless it is a noncharacter, and these characters of the later version are
mapped: U+0558 to U+0567; U+058C to U+0575; U+209F to U+007A; U+A7DD to U+0277; U+A7E2 to
U+027C; U+AB6C to U+AB4B; U+AB6D to U+AB4C; U+107BB to U+0287; U+1B123 to U+3053 U+3068;
U+1DFFF to U+1DF09. The table lists every code point that is not valid.
-/

namespace HomePanel

namespace Unicode

/-- What domain name processing does with a code point. -/
inductive IdnaStatus where
  | valid
  | mapped (replacement : List Nat)
  | deviation
  | ignored
  | disallowed
  deriving DecidableEq, Repr

namespace IdnaStatus

/-- A status from its tag: `M` and the mapping, `D`, `I`, `X`, or `V`. -/
def ofTag (tag : String) : IdnaStatus :=
  match tag.toList with
  | 'M' :: rest => .mapped (hexList (String.ofList rest))
  | ['D'] => .deviation
  | ['I'] => .ignored
  | ['X'] => .disallowed
  | _ => .valid

end IdnaStatus

/-- The text form of the statuses other than valid. -/
def idnaText : String :=
  String.join [
    "41:M61,42:M62,43:M63,44:M64,45:M65,46:M66,47:M67,48:M68,49:M69,4A:M6A,4B:M6B,4C:M6C,4D:M",
    "6D,4E:M6E,4F:M6F,50:M70,51:M71,52:M72,53:M73,54:M74,55:M75,56:M76,57:M77,58:M78,59:M79,5",
    "A:M7A,80-9F:X,A0:M20,A8:M20.308,AA:M61,AD:I,AF:M20.304,B2:M32,B3:M33,B4:M20.301,B5:M3BC,",
    "B8:M20.327,B9:M31,BA:M6F,BC:M31.2044.34,BD:M31.2044.32,BE:M33.2044.34,C0:ME0,C1:ME1,C2:M",
    "E2,C3:ME3,C4:ME4,C5:ME5,C6:ME6,C7:ME7,C8:ME8,C9:ME9,CA:MEA,CB:MEB,CC:MEC,CD:MED,CE:MEE,C",
    "F:MEF,D0:MF0,D1:MF1,D2:MF2,D3:MF3,D4:MF4,D5:MF5,D6:MF6,D8:MF8,D9:MF9,DA:MFA,DB:MFB,DC:MF",
    "C,DD:MFD,DE:MFE,DF:D,100:M101,102:M103,104:M105,106:M107,108:M109,10A:M10B,10C:M10D,10E:",
    "M10F,110:M111,112:M113,114:M115,116:M117,118:M119,11A:M11B,11C:M11D,11E:M11F,120:M121,12",
    "2:M123,124:M125,126:M127,128:M129,12A:M12B,12C:M12D,12E:M12F,130:M69.307,132-133:M69.6A,",
    "134:M135,136:M137,139:M13A,13B:M13C,13D:M13E,13F-140:M6C.B7,141:M142,143:M144,145:M146,1",
    "47:M148,149:M2BC.6E,14A:M14B,14C:M14D,14E:M14F,150:M151,152:M153,154:M155,156:M157,158:M",
    "159,15A:M15B,15C:M15D,15E:M15F,160:M161,162:M163,164:M165,166:M167,168:M169,16A:M16B,16C",
    ":M16D,16E:M16F,170:M171,172:M173,174:M175,176:M177,178:MFF,179:M17A,17B:M17C,17D:M17E,17",
    "F:M73,181:M253,182:M183,184:M185,186:M254,187:M188,189:M256,18A:M257,18B:M18C,18E:M1DD,1",
    "8F:M259,190:M25B,191:M192,193:M260,194:M263,196:M269,197:M268,198:M199,19C:M26F,19D:M272",
    ",19F:M275,1A0:M1A1,1A2:M1A3,1A4:M1A5,1A6:M280,1A7:M1A8,1A9:M283,1AC:M1AD,1AE:M288,1AF:M1",
    "B0,1B1:M28A,1B2:M28B,1B3:M1B4,1B5:M1B6,1B7:M292,1B8:M1B9,1BC:M1BD,1C4-1C6:M64.17E,1C7-1C",
    "9:M6C.6A,1CA-1CC:M6E.6A,1CD:M1CE,1CF:M1D0,1D1:M1D2,1D3:M1D4,1D5:M1D6,1D7:M1D8,1D9:M1DA,1",
    "DB:M1DC,1DE:M1DF,1E0:M1E1,1E2:M1E3,1E4:M1E5,1E6:M1E7,1E8:M1E9,1EA:M1EB,1EC:M1ED,1EE:M1EF",
    ",1F1-1F3:M64.7A,1F4:M1F5,1F6:M195,1F7:M1BF,1F8:M1F9,1FA:M1FB,1FC:M1FD,1FE:M1FF,200:M201,",
    "202:M203,204:M205,206:M207,208:M209,20A:M20B,20C:M20D,20E:M20F,210:M211,212:M213,214:M21",
    "5,216:M217,218:M219,21A:M21B,21C:M21D,21E:M21F,220:M19E,222:M223,224:M225,226:M227,228:M",
    "229,22A:M22B,22C:M22D,22E:M22F,230:M231,232:M233,23A:M2C65,23B:M23C,23D:M19A,23E:M2C66,2",
    "41:M242,243:M180,244:M289,245:M28C,246:M247,248:M249,24A:M24B,24C:M24D,24E:M24F,2B0:M68,",
    "2B1:M266,2B2:M6A,2B3:M72,2B4:M279,2B5:M27B,2B6:M281,2B7:M77,2B8:M79,2D8:M20.306,2D9:M20.",
    "307,2DA:M20.30A,2DB:M20.328,2DC:M20.303,2DD:M20.30B,2E0:M263,2E1:M6C,2E2:M73,2E3:M78,2E4",
    ":M295,340:M300,341:M301,343:M313,344:M308.301,345:M3B9,34F:I,370:M371,372:M373,374:M2B9,",
    "376:M377,37A:M20.3B9,37E:M3B,37F:M3F3,384:M20.301,385:M20.308.301,386:M3AC,387:MB7,388:M",
    "3AD,389:M3AE,38A:M3AF,38C:M3CC,38E:M3CD,38F:M3CE,391:M3B1,392:M3B2,393:M3B3,394:M3B4,395",
    ":M3B5,396:M3B6,397:M3B7,398:M3B8,399:M3B9,39A:M3BA,39B:M3BB,39C:M3BC,39D:M3BD,39E:M3BE,3",
    "9F:M3BF,3A0:M3C0,3A1:M3C1,3A3:M3C3,3A4:M3C4,3A5:M3C5,3A6:M3C6,3A7:M3C7,3A8:M3C8,3A9:M3C9",
    ",3AA:M3CA,3AB:M3CB,3C2:D,3CF:M3D7,3D0:M3B2,3D1:M3B8,3D2:M3C5,3D3:M3CD,3D4:M3CB,3D5:M3C6,",
    "3D6:M3C0,3D8:M3D9,3DA:M3DB,3DC:M3DD,3DE:M3DF,3E0:M3E1,3E2:M3E3,3E4:M3E5,3E6:M3E7,3E8:M3E",
    "9,3EA:M3EB,3EC:M3ED,3EE:M3EF,3F0:M3BA,3F1:M3C1,3F2:M3C3,3F4:M3B8,3F5:M3B5,3F7:M3F8,3F9:M",
    "3C3,3FA:M3FB,3FD:M37B,3FE:M37C,3FF:M37D,400:M450,401:M451,402:M452,403:M453,404:M454,405",
    ":M455,406:M456,407:M457,408:M458,409:M459,40A:M45A,40B:M45B,40C:M45C,40D:M45D,40E:M45E,4",
    "0F:M45F,410:M430,411:M431,412:M432,413:M433,414:M434,415:M435,416:M436,417:M437,418:M438",
    ",419:M439,41A:M43A,41B:M43B,41C:M43C,41D:M43D,41E:M43E,41F:M43F,420:M440,421:M441,422:M4",
    "42,423:M443,424:M444,425:M445,426:M446,427:M447,428:M448,429:M449,42A:M44A,42B:M44B,42C:",
    "M44C,42D:M44D,42E:M44E,42F:M44F,460:M461,462:M463,464:M465,466:M467,468:M469,46A:M46B,46",
    "C:M46D,46E:M46F,470:M471,472:M473,474:M475,476:M477,478:M479,47A:M47B,47C:M47D,47E:M47F,",
    "480:M481,48A:M48B,48C:M48D,48E:M48F,490:M491,492:M493,494:M495,496:M497,498:M499,49A:M49",
    "B,49C:M49D,49E:M49F,4A0:M4A1,4A2:M4A3,4A4:M4A5,4A6:M4A7,4A8:M4A9,4AA:M4AB,4AC:M4AD,4AE:M",
    "4AF,4B0:M4B1,4B2:M4B3,4B4:M4B5,4B6:M4B7,4B8:M4B9,4BA:M4BB,4BC:M4BD,4BE:M4BF,4C0:M4CF,4C1",
    ":M4C2,4C3:M4C4,4C5:M4C6,4C7:M4C8,4C9:M4CA,4CB:M4CC,4CD:M4CE,4D0:M4D1,4D2:M4D3,4D4:M4D5,4",
    "D6:M4D7,4D8:M4D9,4DA:M4DB,4DC:M4DD,4DE:M4DF,4E0:M4E1,4E2:M4E3,4E4:M4E5,4E6:M4E7,4E8:M4E9",
    ",4EA:M4EB,4EC:M4ED,4EE:M4EF,4F0:M4F1,4F2:M4F3,4F4:M4F5,4F6:M4F7,4F8:M4F9,4FA:M4FB,4FC:M4",
    "FD,4FE:M4FF,500:M501,502:M503,504:M505,506:M507,508:M509,50A:M50B,50C:M50D,50E:M50F,510:",
    "M511,512:M513,514:M515,516:M517,518:M519,51A:M51B,51C:M51D,51E:M51F,520:M521,522:M523,52",
    "4:M525,526:M527,528:M529,52A:M52B,52C:M52D,52E:M52F,531:M561,532:M562,533:M563,534:M564,",
    "535:M565,536:M566,537:M567,538:M568,539:M569,53A:M56A,53B:M56B,53C:M56C,53D:M56D,53E:M56",
    "E,53F:M56F,540:M570,541:M571,542:M572,543:M573,544:M574,545:M575,546:M576,547:M577,548:M",
    "578,549:M579,54A:M57A,54B:M57B,54C:M57C,54D:M57D,54E:M57E,54F:M57F,550:M580,551:M581,552",
    ":M582,553:M583,554:M584,555:M585,556:M586,558:M567,587:M565.582,58C:M575,600-605:X,61C:X",
    ",675:M627.674,676:M648.674,677:M6C7.674,678:M64A.674,6DD:X,70F:X,890-891:X,8E2:X,958:M91",
    "5.93C,959:M916.93C,95A:M917.93C,95B:M91C.93C,95C:M921.93C,95D:M922.93C,95E:M92B.93C,95F:",
    "M92F.93C,9DC:M9A1.9BC,9DD:M9A2.9BC,9DF:M9AF.9BC,A33:MA32.A3C,A36:MA38.A3C,A59:MA16.A3C,A",
    "5A:MA17.A3C,A5B:MA1C.A3C,A5E:MA2B.A3C,B5C:MB21.B3C,B5D:MB22.B3C,E33:ME4D.E32,EB3:MECD.EB",
    "2,EDC:MEAB.E99,EDD:MEAB.EA1,F0C:MF0B,F43:MF42.FB7,F4D:MF4C.FB7,F52:MF51.FB7,F57:MF56.FB7",
    ",F5C:MF5B.FB7,F69:MF40.FB5,F73:MF71.F72,F75:MF71.F74,F76:MFB2.F80,F77:MFB2.F71.F80,F78:M",
    "FB3.F80,F79:MFB3.F71.F80,F81:MF71.F80,F93:MF92.FB7,F9D:MF9C.FB7,FA2:MFA1.FB7,FA7:MFA6.FB",
    "7,FAC:MFAB.FB7,FB9:MF90.FB5,10A0:M2D00,10A1:M2D01,10A2:M2D02,10A3:M2D03,10A4:M2D04,10A5:",
    "M2D05,10A6:M2D06,10A7:M2D07,10A8:M2D08,10A9:M2D09,10AA:M2D0A,10AB:M2D0B,10AC:M2D0C,10AD:",
    "M2D0D,10AE:M2D0E,10AF:M2D0F,10B0:M2D10,10B1:M2D11,10B2:M2D12,10B3:M2D13,10B4:M2D14,10B5:",
    "M2D15,10B6:M2D16,10B7:M2D17,10B8:M2D18,10B9:M2D19,10BA:M2D1A,10BB:M2D1B,10BC:M2D1C,10BD:",
    "M2D1D,10BE:M2D1E,10BF:M2D1F,10C0:M2D20,10C1:M2D21,10C2:M2D22,10C3:M2D23,10C4:M2D24,10C5:",
    "M2D25,10C7:M2D27,10CD:M2D2D,10FC:M10DC,115F-1160:I,13F8:M13F0,13F9:M13F1,13FA:M13F2,13FB",
    ":M13F3,13FC:M13F4,13FD:M13F5,1680:X,17B4-17B5:I,180B-180F:I,1C80:M432,1C81:M434,1C82:M43",
    "E,1C83:M441,1C84-1C85:M442,1C86:M44A,1C87:M463,1C88:MA64B,1C89:M1C8A,1C90:M10D0,1C91:M10",
    "D1,1C92:M10D2,1C93:M10D3,1C94:M10D4,1C95:M10D5,1C96:M10D6,1C97:M10D7,1C98:M10D8,1C99:M10",
    "D9,1C9A:M10DA,1C9B:M10DB,1C9C:M10DC,1C9D:M10DD,1C9E:M10DE,1C9F:M10DF,1CA0:M10E0,1CA1:M10",
    "E1,1CA2:M10E2,1CA3:M10E3,1CA4:M10E4,1CA5:M10E5,1CA6:M10E6,1CA7:M10E7,1CA8:M10E8,1CA9:M10",
    "E9,1CAA:M10EA,1CAB:M10EB,1CAC:M10EC,1CAD:M10ED,1CAE:M10EE,1CAF:M10EF,1CB0:M10F0,1CB1:M10",
    "F1,1CB2:M10F2,1CB3:M10F3,1CB4:M10F4,1CB5:M10F5,1CB6:M10F6,1CB7:M10F7,1CB8:M10F8,1CB9:M10",
    "F9,1CBA:M10FA,1CBD:M10FD,1CBE:M10FE,1CBF:M10FF,1D2C:M61,1D2D:ME6,1D2E:M62,1D30:M64,1D31:",
    "M65,1D32:M1DD,1D33:M67,1D34:M68,1D35:M69,1D36:M6A,1D37:M6B,1D38:M6C,1D39:M6D,1D3A:M6E,1D",
    "3C:M6F,1D3D:M223,1D3E:M70,1D3F:M72,1D40:M74,1D41:M75,1D42:M77,1D43:M61,1D44:M250,1D45:M2",
    "51,1D46:M1D02,1D47:M62,1D48:M64,1D49:M65,1D4A:M259,1D4B:M25B,1D4C:M25C,1D4D:M67,1D4F:M6B",
    ",1D50:M6D,1D51:M14B,1D52:M6F,1D53:M254,1D54:M1D16,1D55:M1D17,1D56:M70,1D57:M74,1D58:M75,",
    "1D59:M1D1D,1D5A:M26F,1D5B:M76,1D5C:M1D25,1D5D:M3B2,1D5E:M3B3,1D5F:M3B4,1D60:M3C6,1D61:M3",
    "C7,1D62:M69,1D63:M72,1D64:M75,1D65:M76,1D66:M3B2,1D67:M3B3,1D68:M3C1,1D69:M3C6,1D6A:M3C7",
    ",1D78:M43D,1D9B:M252,1D9C:M63,1D9D:M255,1D9E:MF0,1D9F:M25C,1DA0:M66,1DA1:M25F,1DA2:M261,",
    "1DA3:M265,1DA4:M268,1DA5:M269,1DA6:M26A,1DA7:M1D7B,1DA8:M29D,1DA9:M26D,1DAA:M1D85,1DAB:M",
    "29F,1DAC:M271,1DAD:M270,1DAE:M272,1DAF:M273,1DB0:M274,1DB1:M275,1DB2:M278,1DB3:M282,1DB4",
    ":M283,1DB5:M1AB,1DB6:M289,1DB7:M28A,1DB8:M1D1C,1DB9:M28B,1DBA:M28C,1DBB:M7A,1DBC:M290,1D",
    "BD:M291,1DBE:M292,1DBF:M3B8,1E00:M1E01,1E02:M1E03,1E04:M1E05,1E06:M1E07,1E08:M1E09,1E0A:",
    "M1E0B,1E0C:M1E0D,1E0E:M1E0F,1E10:M1E11,1E12:M1E13,1E14:M1E15,1E16:M1E17,1E18:M1E19,1E1A:",
    "M1E1B,1E1C:M1E1D,1E1E:M1E1F,1E20:M1E21,1E22:M1E23,1E24:M1E25,1E26:M1E27,1E28:M1E29,1E2A:",
    "M1E2B,1E2C:M1E2D,1E2E:M1E2F,1E30:M1E31,1E32:M1E33,1E34:M1E35,1E36:M1E37,1E38:M1E39,1E3A:",
    "M1E3B,1E3C:M1E3D,1E3E:M1E3F,1E40:M1E41,1E42:M1E43,1E44:M1E45,1E46:M1E47,1E48:M1E49,1E4A:",
    "M1E4B,1E4C:M1E4D,1E4E:M1E4F,1E50:M1E51,1E52:M1E53,1E54:M1E55,1E56:M1E57,1E58:M1E59,1E5A:",
    "M1E5B,1E5C:M1E5D,1E5E:M1E5F,1E60:M1E61,1E62:M1E63,1E64:M1E65,1E66:M1E67,1E68:M1E69,1E6A:",
    "M1E6B,1E6C:M1E6D,1E6E:M1E6F,1E70:M1E71,1E72:M1E73,1E74:M1E75,1E76:M1E77,1E78:M1E79,1E7A:",
    "M1E7B,1E7C:M1E7D,1E7E:M1E7F,1E80:M1E81,1E82:M1E83,1E84:M1E85,1E86:M1E87,1E88:M1E89,1E8A:",
    "M1E8B,1E8C:M1E8D,1E8E:M1E8F,1E90:M1E91,1E92:M1E93,1E94:M1E95,1E9A:M61.2BE,1E9B:M1E61,1E9",
    "E:MDF,1EA0:M1EA1,1EA2:M1EA3,1EA4:M1EA5,1EA6:M1EA7,1EA8:M1EA9,1EAA:M1EAB,1EAC:M1EAD,1EAE:",
    "M1EAF,1EB0:M1EB1,1EB2:M1EB3,1EB4:M1EB5,1EB6:M1EB7,1EB8:M1EB9,1EBA:M1EBB,1EBC:M1EBD,1EBE:",
    "M1EBF,1EC0:M1EC1,1EC2:M1EC3,1EC4:M1EC5,1EC6:M1EC7,1EC8:M1EC9,1ECA:M1ECB,1ECC:M1ECD,1ECE:",
    "M1ECF,1ED0:M1ED1,1ED2:M1ED3,1ED4:M1ED5,1ED6:M1ED7,1ED8:M1ED9,1EDA:M1EDB,1EDC:M1EDD,1EDE:",
    "M1EDF,1EE0:M1EE1,1EE2:M1EE3,1EE4:M1EE5,1EE6:M1EE7,1EE8:M1EE9,1EEA:M1EEB,1EEC:M1EED,1EEE:",
    "M1EEF,1EF0:M1EF1,1EF2:M1EF3,1EF4:M1EF5,1EF6:M1EF7,1EF8:M1EF9,1EFA:M1EFB,1EFC:M1EFD,1EFE:",
    "M1EFF,1F08:M1F00,1F09:M1F01,1F0A:M1F02,1F0B:M1F03,1F0C:M1F04,1F0D:M1F05,1F0E:M1F06,1F0F:",
    "M1F07,1F18:M1F10,1F19:M1F11,1F1A:M1F12,1F1B:M1F13,1F1C:M1F14,1F1D:M1F15,1F28:M1F20,1F29:",
    "M1F21,1F2A:M1F22,1F2B:M1F23,1F2C:M1F24,1F2D:M1F25,1F2E:M1F26,1F2F:M1F27,1F38:M1F30,1F39:",
    "M1F31,1F3A:M1F32,1F3B:M1F33,1F3C:M1F34,1F3D:M1F35,1F3E:M1F36,1F3F:M1F37,1F48:M1F40,1F49:",
    "M1F41,1F4A:M1F42,1F4B:M1F43,1F4C:M1F44,1F4D:M1F45,1F59:M1F51,1F5B:M1F53,1F5D:M1F55,1F5F:",
    "M1F57,1F68:M1F60,1F69:M1F61,1F6A:M1F62,1F6B:M1F63,1F6C:M1F64,1F6D:M1F65,1F6E:M1F66,1F6F:",
    "M1F67,1F71:M3AC,1F73:M3AD,1F75:M3AE,1F77:M3AF,1F79:M3CC,1F7B:M3CD,1F7D:M3CE,1F80:M1F00.3",
    "B9,1F81:M1F01.3B9,1F82:M1F02.3B9,1F83:M1F03.3B9,1F84:M1F04.3B9,1F85:M1F05.3B9,1F86:M1F06",
    ".3B9,1F87:M1F07.3B9,1F88:M1F00.3B9,1F89:M1F01.3B9,1F8A:M1F02.3B9,1F8B:M1F03.3B9,1F8C:M1F",
    "04.3B9,1F8D:M1F05.3B9,1F8E:M1F06.3B9,1F8F:M1F07.3B9,1F90:M1F20.3B9,1F91:M1F21.3B9,1F92:M",
    "1F22.3B9,1F93:M1F23.3B9,1F94:M1F24.3B9,1F95:M1F25.3B9,1F96:M1F26.3B9,1F97:M1F27.3B9,1F98",
    ":M1F20.3B9,1F99:M1F21.3B9,1F9A:M1F22.3B9,1F9B:M1F23.3B9,1F9C:M1F24.3B9,1F9D:M1F25.3B9,1F",
    "9E:M1F26.3B9,1F9F:M1F27.3B9,1FA0:M1F60.3B9,1FA1:M1F61.3B9,1FA2:M1F62.3B9,1FA3:M1F63.3B9,",
    "1FA4:M1F64.3B9,1FA5:M1F65.3B9,1FA6:M1F66.3B9,1FA7:M1F67.3B9,1FA8:M1F60.3B9,1FA9:M1F61.3B",
    "9,1FAA:M1F62.3B9,1FAB:M1F63.3B9,1FAC:M1F64.3B9,1FAD:M1F65.3B9,1FAE:M1F66.3B9,1FAF:M1F67.",
    "3B9,1FB2:M1F70.3B9,1FB3:M3B1.3B9,1FB4:M3AC.3B9,1FB7:M1FB6.3B9,1FB8:M1FB0,1FB9:M1FB1,1FBA",
    ":M1F70,1FBB:M3AC,1FBC:M3B1.3B9,1FBD:M20.313,1FBE:M3B9,1FBF:M20.313,1FC0:M20.342,1FC1:M20",
    ".308.342,1FC2:M1F74.3B9,1FC3:M3B7.3B9,1FC4:M3AE.3B9,1FC7:M1FC6.3B9,1FC8:M1F72,1FC9:M3AD,",
    "1FCA:M1F74,1FCB:M3AE,1FCC:M3B7.3B9,1FCD:M20.313.300,1FCE:M20.313.301,1FCF:M20.313.342,1F",
    "D3:M390,1FD8:M1FD0,1FD9:M1FD1,1FDA:M1F76,1FDB:M3AF,1FDD:M20.314.300,1FDE:M20.314.301,1FD",
    "F:M20.314.342,1FE3:M3B0,1FE8:M1FE0,1FE9:M1FE1,1FEA:M1F7A,1FEB:M3CD,1FEC:M1FE5,1FED:M20.3",
    "08.300,1FEE:M20.308.301,1FEF:M60,1FF2:M1F7C.3B9,1FF3:M3C9.3B9,1FF4:M3CE.3B9,1FF7:M1FF6.3",
    "B9,1FF8:M1F78,1FF9:M3CC,1FFA:M1F7C,1FFB:M3CE,1FFC:M3C9.3B9,1FFD:M20.301,1FFE:M20.314,200",
    "0-200A:M20,200B:I,200C-200D:D,200E-200F:X,2011:M2010,2017:M20.333,2024-2026:X,2028-202E:",
    "X,202F:M20,2033:M2032.2032,2034:M2032.2032.2032,2036:M2035.2035,2037:M2035.2035.2035,203",
    "C:M21.21,203E:M20.305,2047:M3F.3F,2048:M3F.21,2049:M21.3F,2057:M2032.2032.2032.2032,205F",
    ":M20,2060-2064:I,2066-2069:X,206A-206F:I,2070:M30,2071:M69,2074:M34,2075:M35,2076:M36,20",
    "77:M37,2078:M38,2079:M39,207A:M2B,207B:M2212,207C:M3D,207D:M28,207E:M29,207F:M6E,2080:M3",
    "0,2081:M31,2082:M32,2083:M33,2084:M34,2085:M35,2086:M36,2087:M37,2088:M38,2089:M39,208A:",
    "M2B,208B:M2212,208C:M3D,208D:M28,208E:M29,2090:M61,2091:M65,2092:M6F,2093:M78,2094:M259,",
    "2095:M68,2096:M6B,2097:M6C,2098:M6D,2099:M6E,209A:M70,209B:M73,209C:M74,209F:M7A,20A8:M7",
    "2.73,2100:M61.2F.63,2101:M61.2F.73,2102:M63,2103:MB0.63,2105:M63.2F.6F,2106:M63.2F.75,21",
    "07:M25B,2109:MB0.66,210A:M67,210B-210E:M68,210F:M127,2110-2111:M69,2112-2113:M6C,2115:M6",
    "E,2116:M6E.6F,2119:M70,211A:M71,211B-211D:M72,2120:M73.6D,2121:M74.65.6C,2122:M74.6D,212",
    "4:M7A,2126:M3C9,2128:M7A,212A:M6B,212B:ME5,212C:M62,212D:M63,212F-2130:M65,2131:M66,2132",
    ":M214E,2133:M6D,2134:M6F,2135:M5D0,2136:M5D1,2137:M5D2,2138:M5D3,2139:M69,213B:M66.61.78",
    ",213C:M3C0,213D-213E:M3B3,213F:M3C0,2140:M2211,2145-2146:M64,2147:M65,2148:M69,2149:M6A,",
    "2150:M31.2044.37,2151:M31.2044.39,2152:M31.2044.31.30,2153:M31.2044.33,2154:M32.2044.33,",
    "2155:M31.2044.35,2156:M32.2044.35,2157:M33.2044.35,2158:M34.2044.35,2159:M31.2044.36,215",
    "A:M35.2044.36,215B:M31.2044.38,215C:M33.2044.38,215D:M35.2044.38,215E:M37.2044.38,215F:M",
    "31.2044,2160:M69,2161:M69.69,2162:M69.69.69,2163:M69.76,2164:M76,2165:M76.69,2166:M76.69",
    ".69,2167:M76.69.69.69,2168:M69.78,2169:M78,216A:M78.69,216B:M78.69.69,216C:M6C,216D:M63,",
    "216E:M64,216F:M6D,2170:M69,2171:M69.69,2172:M69.69.69,2173:M69.76,2174:M76,2175:M76.69,2",
    "176:M76.69.69,2177:M76.69.69.69,2178:M69.78,2179:M78,217A:M78.69,217B:M78.69.69,217C:M6C",
    ",217D:M63,217E:M64,217F:M6D,2183:M2184,2189:M30.2044.33,222C:M222B.222B,222D:M222B.222B.",
    "222B,222F:M222E.222E,2230:M222E.222E.222E,2329:M3008,232A:M3009,2460:M31,2461:M32,2462:M",
    "33,2463:M34,2464:M35,2465:M36,2466:M37,2467:M38,2468:M39,2469:M31.30,246A:M31.31,246B:M3",
    "1.32,246C:M31.33,246D:M31.34,246E:M31.35,246F:M31.36,2470:M31.37,2471:M31.38,2472:M31.39",
    ",2473:M32.30,2474:M28.31.29,2475:M28.32.29,2476:M28.33.29,2477:M28.34.29,2478:M28.35.29,",
    "2479:M28.36.29,247A:M28.37.29,247B:M28.38.29,247C:M28.39.29,247D:M28.31.30.29,247E:M28.3",
    "1.31.29,247F:M28.31.32.29,2480:M28.31.33.29,2481:M28.31.34.29,2482:M28.31.35.29,2483:M28",
    ".31.36.29,2484:M28.31.37.29,2485:M28.31.38.29,2486:M28.31.39.29,2487:M28.32.30.29,2488-2",
    "49B:X,249C:M28.61.29,249D:M28.62.29,249E:M28.63.29,249F:M28.64.29,24A0:M28.65.29,24A1:M2",
    "8.66.29,24A2:M28.67.29,24A3:M28.68.29,24A4:M28.69.29,24A5:M28.6A.29,24A6:M28.6B.29,24A7:",
    "M28.6C.29,24A8:M28.6D.29,24A9:M28.6E.29,24AA:M28.6F.29,24AB:M28.70.29,24AC:M28.71.29,24A",
    "D:M28.72.29,24AE:M28.73.29,24AF:M28.74.29,24B0:M28.75.29,24B1:M28.76.29,24B2:M28.77.29,2",
    "4B3:M28.78.29,24B4:M28.79.29,24B5:M28.7A.29,24B6:M61,24B7:M62,24B8:M63,24B9:M64,24BA:M65",
    ",24BB:M66,24BC:M67,24BD:M68,24BE:M69,24BF:M6A,24C0:M6B,24C1:M6C,24C2:M6D,24C3:M6E,24C4:M",
    "6F,24C5:M70,24C6:M71,24C7:M72,24C8:M73,24C9:M74,24CA:M75,24CB:M76,24CC:M77,24CD:M78,24CE",
    ":M79,24CF:M7A,24D0:M61,24D1:M62,24D2:M63,24D3:M64,24D4:M65,24D5:M66,24D6:M67,24D7:M68,24",
    "D8:M69,24D9:M6A,24DA:M6B,24DB:M6C,24DC:M6D,24DD:M6E,24DE:M6F,24DF:M70,24E0:M71,24E1:M72,",
    "24E2:M73,24E3:M74,24E4:M75,24E5:M76,24E6:M77,24E7:M78,24E8:M79,24E9:M7A,24EA:M30,2A0C:M2",
    "22B.222B.222B.222B,2A74:M3A.3A.3D,2A75:M3D.3D,2A76:M3D.3D.3D,2ADC:M2ADD.338,2C00:M2C30,2",
    "C01:M2C31,2C02:M2C32,2C03:M2C33,2C04:M2C34,2C05:M2C35,2C06:M2C36,2C07:M2C37,2C08:M2C38,2",
    "C09:M2C39,2C0A:M2C3A,2C0B:M2C3B,2C0C:M2C3C,2C0D:M2C3D,2C0E:M2C3E,2C0F:M2C3F,2C10:M2C40,2",
    "C11:M2C41,2C12:M2C42,2C13:M2C43,2C14:M2C44,2C15:M2C45,2C16:M2C46,2C17:M2C47,2C18:M2C48,2",
    "C19:M2C49,2C1A:M2C4A,2C1B:M2C4B,2C1C:M2C4C,2C1D:M2C4D,2C1E:M2C4E,2C1F:M2C4F,2C20:M2C50,2",
    "C21:M2C51,2C22:M2C52,2C23:M2C53,2C24:M2C54,2C25:M2C55,2C26:M2C56,2C27:M2C57,2C28:M2C58,2",
    "C29:M2C59,2C2A:M2C5A,2C2B:M2C5B,2C2C:M2C5C,2C2D:M2C5D,2C2E:M2C5E,2C2F:M2C5F,2C60:M2C61,2",
    "C62:M26B,2C63:M1D7D,2C64:M27D,2C67:M2C68,2C69:M2C6A,2C6B:M2C6C,2C6D:M251,2C6E:M271,2C6F:",
    "M250,2C70:M252,2C72:M2C73,2C75:M2C76,2C7C:M6A,2C7D:M76,2C7E:M23F,2C7F:M240,2C80:M2C81,2C",
    "82:M2C83,2C84:M2C85,2C86:M2C87,2C88:M2C89,2C8A:M2C8B,2C8C:M2C8D,2C8E:M2C8F,2C90:M2C91,2C",
    "92:M2C93,2C94:M2C95,2C96:M2C97,2C98:M2C99,2C9A:M2C9B,2C9C:M2C9D,2C9E:M2C9F,2CA0:M2CA1,2C",
    "A2:M2CA3,2CA4:M2CA5,2CA6:M2CA7,2CA8:M2CA9,2CAA:M2CAB,2CAC:M2CAD,2CAE:M2CAF,2CB0:M2CB1,2C",
    "B2:M2CB3,2CB4:M2CB5,2CB6:M2CB7,2CB8:M2CB9,2CBA:M2CBB,2CBC:M2CBD,2CBE:M2CBF,2CC0:M2CC1,2C",
    "C2:M2CC3,2CC4:M2CC5,2CC6:M2CC7,2CC8:M2CC9,2CCA:M2CCB,2CCC:M2CCD,2CCE:M2CCF,2CD0:M2CD1,2C",
    "D2:M2CD3,2CD4:M2CD5,2CD6:M2CD7,2CD8:M2CD9,2CDA:M2CDB,2CDC:M2CDD,2CDE:M2CDF,2CE0:M2CE1,2C",
    "E2:M2CE3,2CEB:M2CEC,2CED:M2CEE,2CF2:M2CF3,2D6F:M2D61,2E9F:M6BCD,2EF3:M9F9F,2F00:M4E00,2F",
    "01:M4E28,2F02:M4E36,2F03:M4E3F,2F04:M4E59,2F05:M4E85,2F06:M4E8C,2F07:M4EA0,2F08:M4EBA,2F",
    "09:M513F,2F0A:M5165,2F0B:M516B,2F0C:M5182,2F0D:M5196,2F0E:M51AB,2F0F:M51E0,2F10:M51F5,2F",
    "11:M5200,2F12:M529B,2F13:M52F9,2F14:M5315,2F15:M531A,2F16:M5338,2F17:M5341,2F18:M535C,2F",
    "19:M5369,2F1A:M5382,2F1B:M53B6,2F1C:M53C8,2F1D:M53E3,2F1E:M56D7,2F1F:M571F,2F20:M58EB,2F",
    "21:M5902,2F22:M590A,2F23:M5915,2F24:M5927,2F25:M5973,2F26:M5B50,2F27:M5B80,2F28:M5BF8,2F",
    "29:M5C0F,2F2A:M5C22,2F2B:M5C38,2F2C:M5C6E,2F2D:M5C71,2F2E:M5DDB,2F2F:M5DE5,2F30:M5DF1,2F",
    "31:M5DFE,2F32:M5E72,2F33:M5E7A,2F34:M5E7F,2F35:M5EF4,2F36:M5EFE,2F37:M5F0B,2F38:M5F13,2F",
    "39:M5F50,2F3A:M5F61,2F3B:M5F73,2F3C:M5FC3,2F3D:M6208,2F3E:M6236,2F3F:M624B,2F40:M652F,2F",
    "41:M6534,2F42:M6587,2F43:M6597,2F44:M65A4,2F45:M65B9,2F46:M65E0,2F47:M65E5,2F48:M66F0,2F",
    "49:M6708,2F4A:M6728,2F4B:M6B20,2F4C:M6B62,2F4D:M6B79,2F4E:M6BB3,2F4F:M6BCB,2F50:M6BD4,2F",
    "51:M6BDB,2F52:M6C0F,2F53:M6C14,2F54:M6C34,2F55:M706B,2F56:M722A,2F57:M7236,2F58:M723B,2F",
    "59:M723F,2F5A:M7247,2F5B:M7259,2F5C:M725B,2F5D:M72AC,2F5E:M7384,2F5F:M7389,2F60:M74DC,2F",
    "61:M74E6,2F62:M7518,2F63:M751F,2F64:M7528,2F65:M7530,2F66:M758B,2F67:M7592,2F68:M7676,2F",
    "69:M767D,2F6A:M76AE,2F6B:M76BF,2F6C:M76EE,2F6D:M77DB,2F6E:M77E2,2F6F:M77F3,2F70:M793A,2F",
    "71:M79B8,2F72:M79BE,2F73:M7A74,2F74:M7ACB,2F75:M7AF9,2F76:M7C73,2F77:M7CF8,2F78:M7F36,2F",
    "79:M7F51,2F7A:M7F8A,2F7B:M7FBD,2F7C:M8001,2F7D:M800C,2F7E:M8012,2F7F:M8033,2F80:M807F,2F",
    "81:M8089,2F82:M81E3,2F83:M81EA,2F84:M81F3,2F85:M81FC,2F86:M820C,2F87:M821B,2F88:M821F,2F",
    "89:M826E,2F8A:M8272,2F8B:M8278,2F8C:M864D,2F8D:M866B,2F8E:M8840,2F8F:M884C,2F90:M8863,2F",
    "91:M897E,2F92:M898B,2F93:M89D2,2F94:M8A00,2F95:M8C37,2F96:M8C46,2F97:M8C55,2F98:M8C78,2F",
    "99:M8C9D,2F9A:M8D64,2F9B:M8D70,2F9C:M8DB3,2F9D:M8EAB,2F9E:M8ECA,2F9F:M8F9B,2FA0:M8FB0,2F",
    "A1:M8FB5,2FA2:M9091,2FA3:M9149,2FA4:M91C6,2FA5:M91CC,2FA6:M91D1,2FA7:M9577,2FA8:M9580,2F",
    "A9:M961C,2FAA:M96B6,2FAB:M96B9,2FAC:M96E8,2FAD:M9751,2FAE:M975E,2FAF:M9762,2FB0:M9769,2F",
    "B1:M97CB,2FB2:M97ED,2FB3:M97F3,2FB4:M9801,2FB5:M98A8,2FB6:M98DB,2FB7:M98DF,2FB8:M9996,2F",
    "B9:M9999,2FBA:M99AC,2FBB:M9AA8,2FBC:M9AD8,2FBD:M9ADF,2FBE:M9B25,2FBF:M9B2F,2FC0:M9B32,2F",
    "C1:M9B3C,2FC2:M9B5A,2FC3:M9CE5,2FC4:M9E75,2FC5:M9E7F,2FC6:M9EA5,2FC7:M9EBB,2FC8:M9EC3,2F",
    "C9:M9ECD,2FCA:M9ED1,2FCB:M9EF9,2FCC:M9EFD,2FCD:M9F0E,2FCE:M9F13,2FCF:M9F20,2FD0:M9F3B,2F",
    "D1:M9F4A,2FD2:M9F52,2FD3:M9F8D,2FD4:M9F9C,2FD5:M9FA0,2FF0-2FFF:X,3000:M20,3002:M2E,3036:",
    "M3012,3038:M5341,3039:M5344,303A:M5345,309B:M20.3099,309C:M20.309A,309F:M3088.308A,30FF:",
    "M30B3.30C8,3131:M1100,3132:M1101,3133:M11AA,3134:M1102,3135:M11AC,3136:M11AD,3137:M1103,",
    "3138:M1104,3139:M1105,313A:M11B0,313B:M11B1,313C:M11B2,313D:M11B3,313E:M11B4,313F:M11B5,",
    "3140:M111A,3141:M1106,3142:M1107,3143:M1108,3144:M1121,3145:M1109,3146:M110A,3147:M110B,",
    "3148:M110C,3149:M110D,314A:M110E,314B:M110F,314C:M1110,314D:M1111,314E:M1112,314F:M1161,",
    "3150:M1162,3151:M1163,3152:M1164,3153:M1165,3154:M1166,3155:M1167,3156:M1168,3157:M1169,",
    "3158:M116A,3159:M116B,315A:M116C,315B:M116D,315C:M116E,315D:M116F,315E:M1170,315F:M1171,",
    "3160:M1172,3161:M1173,3162:M1174,3163:M1175,3164:I,3165:M1114,3166:M1115,3167:M11C7,3168",
    ":M11C8,3169:M11CC,316A:M11CE,316B:M11D3,316C:M11D7,316D:M11D9,316E:M111C,316F:M11DD,3170",
    ":M11DF,3171:M111D,3172:M111E,3173:M1120,3174:M1122,3175:M1123,3176:M1127,3177:M1129,3178",
    ":M112B,3179:M112C,317A:M112D,317B:M112E,317C:M112F,317D:M1132,317E:M1136,317F:M1140,3180",
    ":M1147,3181:M114C,3182:M11F1,3183:M11F2,3184:M1157,3185:M1158,3186:M1159,3187:M1184,3188",
    ":M1185,3189:M1188,318A:M1191,318B:M1192,318C:M1194,318D:M119E,318E:M11A1,3192:M4E00,3193",
    ":M4E8C,3194:M4E09,3195:M56DB,3196:M4E0A,3197:M4E2D,3198:M4E0B,3199:M7532,319A:M4E59,319B",
    ":M4E19,319C:M4E01,319D:M5929,319E:M5730,319F:M4EBA,31EF:X,3200:M28.1100.29,3201:M28.1102",
    ".29,3202:M28.1103.29,3203:M28.1105.29,3204:M28.1106.29,3205:M28.1107.29,3206:M28.1109.29",
    ",3207:M28.110B.29,3208:M28.110C.29,3209:M28.110E.29,320A:M28.110F.29,320B:M28.1110.29,32",
    "0C:M28.1111.29,320D:M28.1112.29,320E:M28.AC00.29,320F:M28.B098.29,3210:M28.B2E4.29,3211:",
    "M28.B77C.29,3212:M28.B9C8.29,3213:M28.BC14.29,3214:M28.C0AC.29,3215:M28.C544.29,3216:M28",
    ".C790.29,3217:M28.CC28.29,3218:M28.CE74.29,3219:M28.D0C0.29,321A:M28.D30C.29,321B:M28.D5",
    "58.29,321C:M28.C8FC.29,321D:M28.C624.C804.29,321E:M28.C624.D6C4.29,3220:M28.4E00.29,3221",
    ":M28.4E8C.29,3222:M28.4E09.29,3223:M28.56DB.29,3224:M28.4E94.29,3225:M28.516D.29,3226:M2",
    "8.4E03.29,3227:M28.516B.29,3228:M28.4E5D.29,3229:M28.5341.29,322A:M28.6708.29,322B:M28.7",
    "06B.29,322C:M28.6C34.29,322D:M28.6728.29,322E:M28.91D1.29,322F:M28.571F.29,3230:M28.65E5",
    ".29,3231:M28.682A.29,3232:M28.6709.29,3233:M28.793E.29,3234:M28.540D.29,3235:M28.7279.29",
    ",3236:M28.8CA1.29,3237:M28.795D.29,3238:M28.52B4.29,3239:M28.4EE3.29,323A:M28.547C.29,32",
    "3B:M28.5B66.29,323C:M28.76E3.29,323D:M28.4F01.29,323E:M28.8CC7.29,323F:M28.5354.29,3240:",
    "M28.796D.29,3241:M28.4F11.29,3242:M28.81EA.29,3243:M28.81F3.29,3244:M554F,3245:M5E7C,324",
    "6:M6587,3247:M7B8F,3250:M70.74.65,3251:M32.31,3252:M32.32,3253:M32.33,3254:M32.34,3255:M",
    "32.35,3256:M32.36,3257:M32.37,3258:M32.38,3259:M32.39,325A:M33.30,325B:M33.31,325C:M33.3",
    "2,325D:M33.33,325E:M33.34,325F:M33.35,3260:M1100,3261:M1102,3262:M1103,3263:M1105,3264:M",
    "1106,3265:M1107,3266:M1109,3267:M110B,3268:M110C,3269:M110E,326A:M110F,326B:M1110,326C:M",
    "1111,326D:M1112,326E:MAC00,326F:MB098,3270:MB2E4,3271:MB77C,3272:MB9C8,3273:MBC14,3274:M",
    "C0AC,3275:MC544,3276:MC790,3277:MCC28,3278:MCE74,3279:MD0C0,327A:MD30C,327B:MD558,327C:M",
    "CC38.ACE0,327D:MC8FC.C758,327E:MC6B0,3280:M4E00,3281:M4E8C,3282:M4E09,3283:M56DB,3284:M4",
    "E94,3285:M516D,3286:M4E03,3287:M516B,3288:M4E5D,3289:M5341,328A:M6708,328B:M706B,328C:M6",
    "C34,328D:M6728,328E:M91D1,328F:M571F,3290:M65E5,3291:M682A,3292:M6709,3293:M793E,3294:M5",
    "40D,3295:M7279,3296:M8CA1,3297:M795D,3298:M52B4,3299:M79D8,329A:M7537,329B:M5973,329C:M9",
    "069,329D:M512A,329E:M5370,329F:M6CE8,32A0:M9805,32A1:M4F11,32A2:M5199,32A3:M6B63,32A4:M4",
    "E0A,32A5:M4E2D,32A6:M4E0B,32A7:M5DE6,32A8:M53F3,32A9:M533B,32AA:M5B97,32AB:M5B66,32AC:M7",
    "6E3,32AD:M4F01,32AE:M8CC7,32AF:M5354,32B0:M591C,32B1:M33.36,32B2:M33.37,32B3:M33.38,32B4",
    ":M33.39,32B5:M34.30,32B6:M34.31,32B7:M34.32,32B8:M34.33,32B9:M34.34,32BA:M34.35,32BB:M34",
    ".36,32BC:M34.37,32BD:M34.38,32BE:M34.39,32BF:M35.30,32C0:M31.6708,32C1:M32.6708,32C2:M33",
    ".6708,32C3:M34.6708,32C4:M35.6708,32C5:M36.6708,32C6:M37.6708,32C7:M38.6708,32C8:M39.670",
    "8,32C9:M31.30.6708,32CA:M31.31.6708,32CB:M31.32.6708,32CC:M68.67,32CD:M65.72.67,32CE:M65",
    ".76,32CF:M6C.74.64,32D0:M30A2,32D1:M30A4,32D2:M30A6,32D3:M30A8,32D4:M30AA,32D5:M30AB,32D",
    "6:M30AD,32D7:M30AF,32D8:M30B1,32D9:M30B3,32DA:M30B5,32DB:M30B7,32DC:M30B9,32DD:M30BB,32D",
    "E:M30BD,32DF:M30BF,32E0:M30C1,32E1:M30C4,32E2:M30C6,32E3:M30C8,32E4:M30CA,32E5:M30CB,32E",
    "6:M30CC,32E7:M30CD,32E8:M30CE,32E9:M30CF,32EA:M30D2,32EB:M30D5,32EC:M30D8,32ED:M30DB,32E",
    "E:M30DE,32EF:M30DF,32F0:M30E0,32F1:M30E1,32F2:M30E2,32F3:M30E4,32F4:M30E6,32F5:M30E8,32F",
    "6:M30E9,32F7:M30EA,32F8:M30EB,32F9:M30EC,32FA:M30ED,32FB:M30EF,32FC:M30F0,32FD:M30F1,32F",
    "E:M30F2,32FF:M4EE4.548C,3300:M30A2.30D1.30FC.30C8,3301:M30A2.30EB.30D5.30A1,3302:M30A2.3",
    "0F3.30DA.30A2,3303:M30A2.30FC.30EB,3304:M30A4.30CB.30F3.30B0,3305:M30A4.30F3.30C1,3306:M",
    "30A6.30A9.30F3,3307:M30A8.30B9.30AF.30FC.30C9,3308:M30A8.30FC.30AB.30FC,3309:M30AA.30F3.",
    "30B9,330A:M30AA.30FC.30E0,330B:M30AB.30A4.30EA,330C:M30AB.30E9.30C3.30C8,330D:M30AB.30ED",
    ".30EA.30FC,330E:M30AC.30ED.30F3,330F:M30AC.30F3.30DE,3310:M30AE.30AC,3311:M30AE.30CB.30F",
    "C,3312:M30AD.30E5.30EA.30FC,3313:M30AE.30EB.30C0.30FC,3314:M30AD.30ED,3315:M30AD.30ED.30",
    "B0.30E9.30E0,3316:M30AD.30ED.30E1.30FC.30C8.30EB,3317:M30AD.30ED.30EF.30C3.30C8,3318:M30",
    "B0.30E9.30E0,3319:M30B0.30E9.30E0.30C8.30F3,331A:M30AF.30EB.30BC.30A4.30ED,331B:M30AF.30",
    "ED.30FC.30CD,331C:M30B1.30FC.30B9,331D:M30B3.30EB.30CA,331E:M30B3.30FC.30DD,331F:M30B5.3",
    "0A4.30AF.30EB,3320:M30B5.30F3.30C1.30FC.30E0,3321:M30B7.30EA.30F3.30B0,3322:M30BB.30F3.3",
    "0C1,3323:M30BB.30F3.30C8,3324:M30C0.30FC.30B9,3325:M30C7.30B7,3326:M30C9.30EB,3327:M30C8",
    ".30F3,3328:M30CA.30CE,3329:M30CE.30C3.30C8,332A:M30CF.30A4.30C4,332B:M30D1.30FC.30BB.30F",
    "3.30C8,332C:M30D1.30FC.30C4,332D:M30D0.30FC.30EC.30EB,332E:M30D4.30A2.30B9.30C8.30EB,332",
    "F:M30D4.30AF.30EB,3330:M30D4.30B3,3331:M30D3.30EB,3332:M30D5.30A1.30E9.30C3.30C9,3333:M3",
    "0D5.30A3.30FC.30C8,3334:M30D6.30C3.30B7.30A7.30EB,3335:M30D5.30E9.30F3,3336:M30D8.30AF.3",
    "0BF.30FC.30EB,3337:M30DA.30BD,3338:M30DA.30CB.30D2,3339:M30D8.30EB.30C4,333A:M30DA.30F3.",
    "30B9,333B:M30DA.30FC.30B8,333C:M30D9.30FC.30BF,333D:M30DD.30A4.30F3.30C8,333E:M30DC.30EB",
    ".30C8,333F:M30DB.30F3,3340:M30DD.30F3.30C9,3341:M30DB.30FC.30EB,3342:M30DB.30FC.30F3,334",
    "3:M30DE.30A4.30AF.30ED,3344:M30DE.30A4.30EB,3345:M30DE.30C3.30CF,3346:M30DE.30EB.30AF,33",
    "47:M30DE.30F3.30B7.30E7.30F3,3348:M30DF.30AF.30ED.30F3,3349:M30DF.30EA,334A:M30DF.30EA.3",
    "0D0.30FC.30EB,334B:M30E1.30AC,334C:M30E1.30AC.30C8.30F3,334D:M30E1.30FC.30C8.30EB,334E:M",
    "30E4.30FC.30C9,334F:M30E4.30FC.30EB,3350:M30E6.30A2.30F3,3351:M30EA.30C3.30C8.30EB,3352:",
    "M30EA.30E9,3353:M30EB.30D4.30FC,3354:M30EB.30FC.30D6.30EB,3355:M30EC.30E0,3356:M30EC.30F",
    "3.30C8.30B2.30F3,3357:M30EF.30C3.30C8,3358:M30.70B9,3359:M31.70B9,335A:M32.70B9,335B:M33",
    ".70B9,335C:M34.70B9,335D:M35.70B9,335E:M36.70B9,335F:M37.70B9,3360:M38.70B9,3361:M39.70B",
    "9,3362:M31.30.70B9,3363:M31.31.70B9,3364:M31.32.70B9,3365:M31.33.70B9,3366:M31.34.70B9,3",
    "367:M31.35.70B9,3368:M31.36.70B9,3369:M31.37.70B9,336A:M31.38.70B9,336B:M31.39.70B9,336C",
    ":M32.30.70B9,336D:M32.31.70B9,336E:M32.32.70B9,336F:M32.33.70B9,3370:M32.34.70B9,3371:M6",
    "8.70.61,3372:M64.61,3373:M61.75,3374:M62.61.72,3375:M6F.76,3376:M70.63,3377:M64.6D,3378:",
    "M64.6D.32,3379:M64.6D.33,337A:M69.75,337B:M5E73.6210,337C:M662D.548C,337D:M5927.6B63,337",
    "E:M660E.6CBB,337F:M682A.5F0F.4F1A.793E,3380:M70.61,3381:M6E.61,3382:M3BC.61,3383:M6D.61,",
    "3384:M6B.61,3385:M6B.62,3386:M6D.62,3387:M67.62,3388:M63.61.6C,3389:M6B.63.61.6C,338A:M7",
    "0.66,338B:M6E.66,338C:M3BC.66,338D:M3BC.67,338E:M6D.67,338F:M6B.67,3390:M68.7A,3391:M6B.",
    "68.7A,3392:M6D.68.7A,3393:M67.68.7A,3394:M74.68.7A,3395:M3BC.6C,3396:M6D.6C,3397:M64.6C,",
    "3398:M6B.6C,3399:M66.6D,339A:M6E.6D,339B:M3BC.6D,339C:M6D.6D,339D:M63.6D,339E:M6B.6D,339",
    "F:M6D.6D.32,33A0:M63.6D.32,33A1:M6D.32,33A2:M6B.6D.32,33A3:M6D.6D.33,33A4:M63.6D.33,33A5",
    ":M6D.33,33A6:M6B.6D.33,33A7:M6D.2215.73,33A8:M6D.2215.73.32,33A9:M70.61,33AA:M6B.70.61,3",
    "3AB:M6D.70.61,33AC:M67.70.61,33AD:M72.61.64,33AE:M72.61.64.2215.73,33AF:M72.61.64.2215.7",
    "3.32,33B0:M70.73,33B1:M6E.73,33B2:M3BC.73,33B3:M6D.73,33B4:M70.76,33B5:M6E.76,33B6:M3BC.",
    "76,33B7:M6D.76,33B8:M6B.76,33B9:M6D.76,33BA:M70.77,33BB:M6E.77,33BC:M3BC.77,33BD:M6D.77,",
    "33BE:M6B.77,33BF:M6D.77,33C0:M6B.3C9,33C1:M6D.3C9,33C2:X,33C3:M62.71,33C4:M63.63,33C5:M6",
    "3.64,33C6:M63.2215.6B.67,33C7:X,33C8:M64.62,33C9:M67.79,33CA:M68.61,33CB:M68.70,33CC:M69",
    ".6E,33CD:M6B.6B,33CE:M6B.6D,33CF:M6B.74,33D0:M6C.6D,33D1:M6C.6E,33D2:M6C.6F.67,33D3:M6C.",
    "78,33D4:M6D.62,33D5:M6D.69.6C,33D6:M6D.6F.6C,33D7:M70.68,33D8:X,33D9:M70.70.6D,33DA:M70.",
    "72,33DB:M73.72,33DC:M73.76,33DD:M77.62,33DE:M76.2215.6D,33DF:M61.2215.6D,33E0:M31.65E5,3",
    "3E1:M32.65E5,33E2:M33.65E5,33E3:M34.65E5,33E4:M35.65E5,33E5:M36.65E5,33E6:M37.65E5,33E7:",
    "M38.65E5,33E8:M39.65E5,33E9:M31.30.65E5,33EA:M31.31.65E5,33EB:M31.32.65E5,33EC:M31.33.65",
    "E5,33ED:M31.34.65E5,33EE:M31.35.65E5,33EF:M31.36.65E5,33F0:M31.37.65E5,33F1:M31.38.65E5,",
    "33F2:M31.39.65E5,33F3:M32.30.65E5,33F4:M32.31.65E5,33F5:M32.32.65E5,33F6:M32.33.65E5,33F",
    "7:M32.34.65E5,33F8:M32.35.65E5,33F9:M32.36.65E5,33FA:M32.37.65E5,33FB:M32.38.65E5,33FC:M",
    "32.39.65E5,33FD:M33.30.65E5,33FE:M33.31.65E5,33FF:M67.61.6C,A640:MA641,A642:MA643,A644:M",
    "A645,A646:MA647,A648:MA649,A64A:MA64B,A64C:MA64D,A64E:MA64F,A650:MA651,A652:MA653,A654:M",
    "A655,A656:MA657,A658:MA659,A65A:MA65B,A65C:MA65D,A65E:MA65F,A660:MA661,A662:MA663,A664:M",
    "A665,A666:MA667,A668:MA669,A66A:MA66B,A66C:MA66D,A680:MA681,A682:MA683,A684:MA685,A686:M",
    "A687,A688:MA689,A68A:MA68B,A68C:MA68D,A68E:MA68F,A690:MA691,A692:MA693,A694:MA695,A696:M",
    "A697,A698:MA699,A69A:MA69B,A69C:M44A,A69D:M44C,A722:MA723,A724:MA725,A726:MA727,A728:MA7",
    "29,A72A:MA72B,A72C:MA72D,A72E:MA72F,A732:MA733,A734:MA735,A736:MA737,A738:MA739,A73A:MA7",
    "3B,A73C:MA73D,A73E:MA73F,A740:MA741,A742:MA743,A744:MA745,A746:MA747,A748:MA749,A74A:MA7",
    "4B,A74C:MA74D,A74E:MA74F,A750:MA751,A752:MA753,A754:MA755,A756:MA757,A758:MA759,A75A:MA7",
    "5B,A75C:MA75D,A75E:MA75F,A760:MA761,A762:MA763,A764:MA765,A766:MA767,A768:MA769,A76A:MA7",
    "6B,A76C:MA76D,A76E:MA76F,A770:MA76F,A779:MA77A,A77B:MA77C,A77D:M1D79,A77E:MA77F,A780:MA7",
    "81,A782:MA783,A784:MA785,A786:MA787,A78B:MA78C,A78D:M265,A790:MA791,A792:MA793,A796:MA79",
    "7,A798:MA799,A79A:MA79B,A79C:MA79D,A79E:MA79F,A7A0:MA7A1,A7A2:MA7A3,A7A4:MA7A5,A7A6:MA7A",
    "7,A7A8:MA7A9,A7AA:M266,A7AB:M25C,A7AC:M261,A7AD:M26C,A7AE:M26A,A7B0:M29E,A7B1:M287,A7B2:",
    "M29D,A7B3:MAB53,A7B4:MA7B5,A7B6:MA7B7,A7B8:MA7B9,A7BA:MA7BB,A7BC:MA7BD,A7BE:MA7BF,A7C0:M",
    "A7C1,A7C2:MA7C3,A7C4:MA794,A7C5:M282,A7C6:M1D8E,A7C7:MA7C8,A7C9:MA7CA,A7CB:M264,A7CC:MA7",
    "CD,A7CE:MA7CF,A7D0:MA7D1,A7D2:MA7D3,A7D4:MA7D5,A7D6:MA7D7,A7D8:MA7D9,A7DA:MA7DB,A7DC:M19",
    "B,A7DD:M277,A7E2:M27C,A7F1:M73,A7F2:M63,A7F3:M66,A7F4:M71,A7F5:MA7F6,A7F8:M127,A7F9:M153",
    ",AB5C:MA727,AB5D:MAB37,AB5E:M26B,AB5F:MAB52,AB69:M28D,AB6C:MAB4B,AB6D:MAB4C,AB70:M13A0,A",
    "B71:M13A1,AB72:M13A2,AB73:M13A3,AB74:M13A4,AB75:M13A5,AB76:M13A6,AB77:M13A7,AB78:M13A8,A",
    "B79:M13A9,AB7A:M13AA,AB7B:M13AB,AB7C:M13AC,AB7D:M13AD,AB7E:M13AE,AB7F:M13AF,AB80:M13B0,A",
    "B81:M13B1,AB82:M13B2,AB83:M13B3,AB84:M13B4,AB85:M13B5,AB86:M13B6,AB87:M13B7,AB88:M13B8,A",
    "B89:M13B9,AB8A:M13BA,AB8B:M13BB,AB8C:M13BC,AB8D:M13BD,AB8E:M13BE,AB8F:M13BF,AB90:M13C0,A",
    "B91:M13C1,AB92:M13C2,AB93:M13C3,AB94:M13C4,AB95:M13C5,AB96:M13C6,AB97:M13C7,AB98:M13C8,A",
    "B99:M13C9,AB9A:M13CA,AB9B:M13CB,AB9C:M13CC,AB9D:M13CD,AB9E:M13CE,AB9F:M13CF,ABA0:M13D0,A",
    "BA1:M13D1,ABA2:M13D2,ABA3:M13D3,ABA4:M13D4,ABA5:M13D5,ABA6:M13D6,ABA7:M13D7,ABA8:M13D8,A",
    "BA9:M13D9,ABAA:M13DA,ABAB:M13DB,ABAC:M13DC,ABAD:M13DD,ABAE:M13DE,ABAF:M13DF,ABB0:M13E0,A",
    "BB1:M13E1,ABB2:M13E2,ABB3:M13E3,ABB4:M13E4,ABB5:M13E5,ABB6:M13E6,ABB7:M13E7,ABB8:M13E8,A",
    "BB9:M13E9,ABBA:M13EA,ABBB:M13EB,ABBC:M13EC,ABBD:M13ED,ABBE:M13EE,ABBF:M13EF,D800-F8FF:X,",
    "F900:M8C48,F901:M66F4,F902:M8ECA,F903:M8CC8,F904:M6ED1,F905:M4E32,F906:M53E5,F907-F908:M",
    "9F9C,F909:M5951,F90A:M91D1,F90B:M5587,F90C:M5948,F90D:M61F6,F90E:M7669,F90F:M7F85,F910:M",
    "863F,F911:M87BA,F912:M88F8,F913:M908F,F914:M6A02,F915:M6D1B,F916:M70D9,F917:M73DE,F918:M",
    "843D,F919:M916A,F91A:M99F1,F91B:M4E82,F91C:M5375,F91D:M6B04,F91E:M721B,F91F:M862D,F920:M",
    "9E1E,F921:M5D50,F922:M6FEB,F923:M85CD,F924:M8964,F925:M62C9,F926:M81D8,F927:M881F,F928:M",
    "5ECA,F929:M6717,F92A:M6D6A,F92B:M72FC,F92C:M90CE,F92D:M4F86,F92E:M51B7,F92F:M52DE,F930:M",
    "64C4,F931:M6AD3,F932:M7210,F933:M76E7,F934:M8001,F935:M8606,F936:M865C,F937:M8DEF,F938:M",
    "9732,F939:M9B6F,F93A:M9DFA,F93B:M788C,F93C:M797F,F93D:M7DA0,F93E:M83C9,F93F:M9304,F940:M",
    "9E7F,F941:M8AD6,F942:M58DF,F943:M5F04,F944:M7C60,F945:M807E,F946:M7262,F947:M78CA,F948:M",
    "8CC2,F949:M96F7,F94A:M58D8,F94B:M5C62,F94C:M6A13,F94D:M6DDA,F94E:M6F0F,F94F:M7D2F,F950:M",
    "7E37,F951:M964B,F952:M52D2,F953:M808B,F954:M51DC,F955:M51CC,F956:M7A1C,F957:M7DBE,F958:M",
    "83F1,F959:M9675,F95A:M8B80,F95B:M62CF,F95C:M6A02,F95D:M8AFE,F95E:M4E39,F95F:M5BE7,F960:M",
    "6012,F961:M7387,F962:M7570,F963:M5317,F964:M78FB,F965:M4FBF,F966:M5FA9,F967:M4E0D,F968:M",
    "6CCC,F969:M6578,F96A:M7D22,F96B:M53C3,F96C:M585E,F96D:M7701,F96E:M8449,F96F:M8AAA,F970:M",
    "6BBA,F971:M8FB0,F972:M6C88,F973:M62FE,F974:M82E5,F975:M63A0,F976:M7565,F977:M4EAE,F978:M",
    "5169,F979:M51C9,F97A:M6881,F97B:M7CE7,F97C:M826F,F97D:M8AD2,F97E:M91CF,F97F:M52F5,F980:M",
    "5442,F981:M5973,F982:M5EEC,F983:M65C5,F984:M6FFE,F985:M792A,F986:M95AD,F987:M9A6A,F988:M",
    "9E97,F989:M9ECE,F98A:M529B,F98B:M66C6,F98C:M6B77,F98D:M8F62,F98E:M5E74,F98F:M6190,F990:M",
    "6200,F991:M649A,F992:M6F23,F993:M7149,F994:M7489,F995:M79CA,F996:M7DF4,F997:M806F,F998:M",
    "8F26,F999:M84EE,F99A:M9023,F99B:M934A,F99C:M5217,F99D:M52A3,F99E:M54BD,F99F:M70C8,F9A0:M",
    "88C2,F9A1:M8AAA,F9A2:M5EC9,F9A3:M5FF5,F9A4:M637B,F9A5:M6BAE,F9A6:M7C3E,F9A7:M7375,F9A8:M",
    "4EE4,F9A9:M56F9,F9AA:M5BE7,F9AB:M5DBA,F9AC:M601C,F9AD:M73B2,F9AE:M7469,F9AF:M7F9A,F9B0:M",
    "8046,F9B1:M9234,F9B2:M96F6,F9B3:M9748,F9B4:M9818,F9B5:M4F8B,F9B6:M79AE,F9B7:M91B4,F9B8:M",
    "96B8,F9B9:M60E1,F9BA:M4E86,F9BB:M50DA,F9BC:M5BEE,F9BD:M5C3F,F9BE:M6599,F9BF:M6A02,F9C0:M",
    "71CE,F9C1:M7642,F9C2:M84FC,F9C3:M907C,F9C4:M9F8D,F9C5:M6688,F9C6:M962E,F9C7:M5289,F9C8:M",
    "677B,F9C9:M67F3,F9CA:M6D41,F9CB:M6E9C,F9CC:M7409,F9CD:M7559,F9CE:M786B,F9CF:M7D10,F9D0:M",
    "985E,F9D1:M516D,F9D2:M622E,F9D3:M9678,F9D4:M502B,F9D5:M5D19,F9D6:M6DEA,F9D7:M8F2A,F9D8:M",
    "5F8B,F9D9:M6144,F9DA:M6817,F9DB:M7387,F9DC:M9686,F9DD:M5229,F9DE:M540F,F9DF:M5C65,F9E0:M",
    "6613,F9E1:M674E,F9E2:M68A8,F9E3:M6CE5,F9E4:M7406,F9E5:M75E2,F9E6:M7F79,F9E7:M88CF,F9E8:M",
    "88E1,F9E9:M91CC,F9EA:M96E2,F9EB:M533F,F9EC:M6EBA,F9ED:M541D,F9EE:M71D0,F9EF:M7498,F9F0:M",
    "85FA,F9F1:M96A3,F9F2:M9C57,F9F3:M9E9F,F9F4:M6797,F9F5:M6DCB,F9F6:M81E8,F9F7:M7ACB,F9F8:M",
    "7B20,F9F9:M7C92,F9FA:M72C0,F9FB:M7099,F9FC:M8B58,F9FD:M4EC0,F9FE:M8336,F9FF:M523A,FA00:M",
    "5207,FA01:M5EA6,FA02:M62D3,FA03:M7CD6,FA04:M5B85,FA05:M6D1E,FA06:M66B4,FA07:M8F3B,FA08:M",
    "884C,FA09:M964D,FA0A:M898B,FA0B:M5ED3,FA0C:M5140,FA0D:M55C0,FA10:M585A,FA12:M6674,FA15:M",
    "51DE,FA16:M732A,FA17:M76CA,FA18:M793C,FA19:M795E,FA1A:M7965,FA1B:M798F,FA1C:M9756,FA1D:M",
    "7CBE,FA1E:M7FBD,FA20:M8612,FA22:M8AF8,FA25:M9038,FA26:M90FD,FA2A:M98EF,FA2B:M98FC,FA2C:M",
    "9928,FA2D:M9DB4,FA2E:M90DE,FA2F:M96B7,FA30:M4FAE,FA31:M50E7,FA32:M514D,FA33:M52C9,FA34:M",
    "52E4,FA35:M5351,FA36:M559D,FA37:M5606,FA38:M5668,FA39:M5840,FA3A:M58A8,FA3B:M5C64,FA3C:M",
    "5C6E,FA3D:M6094,FA3E:M6168,FA3F:M618E,FA40:M61F2,FA41:M654F,FA42:M65E2,FA43:M6691,FA44:M",
    "6885,FA45:M6D77,FA46:M6E1A,FA47:M6F22,FA48:M716E,FA49:M722B,FA4A:M7422,FA4B:M7891,FA4C:M",
    "793E,FA4D:M7949,FA4E:M7948,FA4F:M7950,FA50:M7956,FA51:M795D,FA52:M798D,FA53:M798E,FA54:M",
    "7A40,FA55:M7A81,FA56:M7BC0,FA57:M7DF4,FA58:M7E09,FA59:M7E41,FA5A:M7F72,FA5B:M8005,FA5C:M",
    "81ED,FA5D-FA5E:M8279,FA5F:M8457,FA60:M8910,FA61:M8996,FA62:M8B01,FA63:M8B39,FA64:M8CD3,F",
    "A65:M8D08,FA66:M8FB6,FA67:M9038,FA68:M96E3,FA69:M97FF,FA6A:M983B,FA6B:M6075,FA6C:M242EE,",
    "FA6D:M8218,FA70:M4E26,FA71:M51B5,FA72:M5168,FA73:M4F80,FA74:M5145,FA75:M5180,FA76:M52C7,",
    "FA77:M52FA,FA78:M559D,FA79:M5555,FA7A:M5599,FA7B:M55E2,FA7C:M585A,FA7D:M58B3,FA7E:M5944,",
    "FA7F:M5954,FA80:M5A62,FA81:M5B28,FA82:M5ED2,FA83:M5ED9,FA84:M5F69,FA85:M5FAD,FA86:M60D8,",
    "FA87:M614E,FA88:M6108,FA89:M618E,FA8A:M6160,FA8B:M61F2,FA8C:M6234,FA8D:M63C4,FA8E:M641C,",
    "FA8F:M6452,FA90:M6556,FA91:M6674,FA92:M6717,FA93:M671B,FA94:M6756,FA95:M6B79,FA96:M6BBA,",
    "FA97:M6D41,FA98:M6EDB,FA99:M6ECB,FA9A:M6F22,FA9B:M701E,FA9C:M716E,FA9D:M77A7,FA9E:M7235,",
    "FA9F:M72AF,FAA0:M732A,FAA1:M7471,FAA2:M7506,FAA3:M753B,FAA4:M761D,FAA5:M761F,FAA6:M76CA,",
    "FAA7:M76DB,FAA8:M76F4,FAA9:M774A,FAAA:M7740,FAAB:M78CC,FAAC:M7AB1,FAAD:M7BC0,FAAE:M7C7B,",
    "FAAF:M7D5B,FAB0:M7DF4,FAB1:M7F3E,FAB2:M8005,FAB3:M8352,FAB4:M83EF,FAB5:M8779,FAB6:M8941,",
    "FAB7:M8986,FAB8:M8996,FAB9:M8ABF,FABA:M8AF8,FABB:M8ACB,FABC:M8B01,FABD:M8AFE,FABE:M8AED,",
    "FABF:M8B39,FAC0:M8B8A,FAC1:M8D08,FAC2:M8F38,FAC3:M9072,FAC4:M9199,FAC5:M9276,FAC6:M967C,",
    "FAC7:M96E3,FAC8:M9756,FAC9:M97DB,FACA:M97FF,FACB:M980B,FACC:M983B,FACD:M9B12,FACE:M9F9C,",
    "FACF:M2284A,FAD0:M22844,FAD1:M233D5,FAD2:M3B9D,FAD3:M4018,FAD4:M4039,FAD5:M25249,FAD6:M2",
    "5CD0,FAD7:M27ED3,FAD8:M9F43,FAD9:M9F8E,FB00:M66.66,FB01:M66.69,FB02:M66.6C,FB03:M66.66.6",
    "9,FB04:M66.66.6C,FB05-FB06:M73.74,FB13:M574.576,FB14:M574.565,FB15:M574.56B,FB16:M57E.57",
    "6,FB17:M574.56D,FB1D:M5D9.5B4,FB1F:M5F2.5B7,FB20:M5E2,FB21:M5D0,FB22:M5D3,FB23:M5D4,FB24",
    ":M5DB,FB25:M5DC,FB26:M5DD,FB27:M5E8,FB28:M5EA,FB29:M2B,FB2A:M5E9.5C1,FB2B:M5E9.5C2,FB2C:",
    "M5E9.5BC.5C1,FB2D:M5E9.5BC.5C2,FB2E:M5D0.5B7,FB2F:M5D0.5B8,FB30:M5D0.5BC,FB31:M5D1.5BC,F",
    "B32:M5D2.5BC,FB33:M5D3.5BC,FB34:M5D4.5BC,FB35:M5D5.5BC,FB36:M5D6.5BC,FB38:M5D8.5BC,FB39:",
    "M5D9.5BC,FB3A:M5DA.5BC,FB3B:M5DB.5BC,FB3C:M5DC.5BC,FB3E:M5DE.5BC,FB40:M5E0.5BC,FB41:M5E1",
    ".5BC,FB43:M5E3.5BC,FB44:M5E4.5BC,FB46:M5E6.5BC,FB47:M5E7.5BC,FB48:M5E8.5BC,FB49:M5E9.5BC",
    ",FB4A:M5EA.5BC,FB4B:M5D5.5B9,FB4C:M5D1.5BF,FB4D:M5DB.5BF,FB4E:M5E4.5BF,FB4F:M5D0.5DC,FB5",
    "0-FB51:M671,FB52-FB55:M67B,FB56-FB59:M67E,FB5A-FB5D:M680,FB5E-FB61:M67A,FB62-FB65:M67F,F",
    "B66-FB69:M679,FB6A-FB6D:M6A4,FB6E-FB71:M6A6,FB72-FB75:M684,FB76-FB79:M683,FB7A-FB7D:M686",
    ",FB7E-FB81:M687,FB82-FB83:M68D,FB84-FB85:M68C,FB86-FB87:M68E,FB88-FB89:M688,FB8A-FB8B:M6",
    "98,FB8C-FB8D:M691,FB8E-FB91:M6A9,FB92-FB95:M6AF,FB96-FB99:M6B3,FB9A-FB9D:M6B1,FB9E-FB9F:",
    "M6BA,FBA0-FBA3:M6BB,FBA4-FBA5:M6C0,FBA6-FBA9:M6C1,FBAA-FBAD:M6BE,FBAE-FBAF:M6D2,FBB0-FBB",
    "1:M6D3,FBD3-FBD6:M6AD,FBD7-FBD8:M6C7,FBD9-FBDA:M6C6,FBDB-FBDC:M6C8,FBDD:M6C7.674,FBDE-FB",
    "DF:M6CB,FBE0-FBE1:M6C5,FBE2-FBE3:M6C9,FBE4-FBE7:M6D0,FBE8-FBE9:M649,FBEA-FBEB:M626.627,F",
    "BEC-FBED:M626.6D5,FBEE-FBEF:M626.648,FBF0-FBF1:M626.6C7,FBF2-FBF3:M626.6C6,FBF4-FBF5:M62",
    "6.6C8,FBF6-FBF8:M626.6D0,FBF9-FBFB:M626.649,FBFC-FBFF:M6CC,FC00:M626.62C,FC01:M626.62D,F",
    "C02:M626.645,FC03:M626.649,FC04:M626.64A,FC05:M628.62C,FC06:M628.62D,FC07:M628.62E,FC08:",
    "M628.645,FC09:M628.649,FC0A:M628.64A,FC0B:M62A.62C,FC0C:M62A.62D,FC0D:M62A.62E,FC0E:M62A",
    ".645,FC0F:M62A.649,FC10:M62A.64A,FC11:M62B.62C,FC12:M62B.645,FC13:M62B.649,FC14:M62B.64A",
    ",FC15:M62C.62D,FC16:M62C.645,FC17:M62D.62C,FC18:M62D.645,FC19:M62E.62C,FC1A:M62E.62D,FC1",
    "B:M62E.645,FC1C:M633.62C,FC1D:M633.62D,FC1E:M633.62E,FC1F:M633.645,FC20:M635.62D,FC21:M6",
    "35.645,FC22:M636.62C,FC23:M636.62D,FC24:M636.62E,FC25:M636.645,FC26:M637.62D,FC27:M637.6",
    "45,FC28:M638.645,FC29:M639.62C,FC2A:M639.645,FC2B:M63A.62C,FC2C:M63A.645,FC2D:M641.62C,F",
    "C2E:M641.62D,FC2F:M641.62E,FC30:M641.645,FC31:M641.649,FC32:M641.64A,FC33:M642.62D,FC34:",
    "M642.645,FC35:M642.649,FC36:M642.64A,FC37:M643.627,FC38:M643.62C,FC39:M643.62D,FC3A:M643",
    ".62E,FC3B:M643.644,FC3C:M643.645,FC3D:M643.649,FC3E:M643.64A,FC3F:M644.62C,FC40:M644.62D",
    ",FC41:M644.62E,FC42:M644.645,FC43:M644.649,FC44:M644.64A,FC45:M645.62C,FC46:M645.62D,FC4",
    "7:M645.62E,FC48:M645.645,FC49:M645.649,FC4A:M645.64A,FC4B:M646.62C,FC4C:M646.62D,FC4D:M6",
    "46.62E,FC4E:M646.645,FC4F:M646.649,FC50:M646.64A,FC51:M647.62C,FC52:M647.645,FC53:M647.6",
    "49,FC54:M647.64A,FC55:M64A.62C,FC56:M64A.62D,FC57:M64A.62E,FC58:M64A.645,FC59:M64A.649,F",
    "C5A:M64A.64A,FC5B:M630.670,FC5C:M631.670,FC5D:M649.670,FC5E:M20.64C.651,FC5F:M20.64D.651",
    ",FC60:M20.64E.651,FC61:M20.64F.651,FC62:M20.650.651,FC63:M20.651.670,FC64:M626.631,FC65:",
    "M626.632,FC66:M626.645,FC67:M626.646,FC68:M626.649,FC69:M626.64A,FC6A:M628.631,FC6B:M628",
    ".632,FC6C:M628.645,FC6D:M628.646,FC6E:M628.649,FC6F:M628.64A,FC70:M62A.631,FC71:M62A.632",
    ",FC72:M62A.645,FC73:M62A.646,FC74:M62A.649,FC75:M62A.64A,FC76:M62B.631,FC77:M62B.632,FC7",
    "8:M62B.645,FC79:M62B.646,FC7A:M62B.649,FC7B:M62B.64A,FC7C:M641.649,FC7D:M641.64A,FC7E:M6",
    "42.649,FC7F:M642.64A,FC80:M643.627,FC81:M643.644,FC82:M643.645,FC83:M643.649,FC84:M643.6",
    "4A,FC85:M644.645,FC86:M644.649,FC87:M644.64A,FC88:M645.627,FC89:M645.645,FC8A:M646.631,F",
    "C8B:M646.632,FC8C:M646.645,FC8D:M646.646,FC8E:M646.649,FC8F:M646.64A,FC90:M649.670,FC91:",
    "M64A.631,FC92:M64A.632,FC93:M64A.645,FC94:M64A.646,FC95:M64A.649,FC96:M64A.64A,FC97:M626",
    ".62C,FC98:M626.62D,FC99:M626.62E,FC9A:M626.645,FC9B:M626.647,FC9C:M628.62C,FC9D:M628.62D",
    ",FC9E:M628.62E,FC9F:M628.645,FCA0:M628.647,FCA1:M62A.62C,FCA2:M62A.62D,FCA3:M62A.62E,FCA",
    "4:M62A.645,FCA5:M62A.647,FCA6:M62B.645,FCA7:M62C.62D,FCA8:M62C.645,FCA9:M62D.62C,FCAA:M6",
    "2D.645,FCAB:M62E.62C,FCAC:M62E.645,FCAD:M633.62C,FCAE:M633.62D,FCAF:M633.62E,FCB0:M633.6",
    "45,FCB1:M635.62D,FCB2:M635.62E,FCB3:M635.645,FCB4:M636.62C,FCB5:M636.62D,FCB6:M636.62E,F",
    "CB7:M636.645,FCB8:M637.62D,FCB9:M638.645,FCBA:M639.62C,FCBB:M639.645,FCBC:M63A.62C,FCBD:",
    "M63A.645,FCBE:M641.62C,FCBF:M641.62D,FCC0:M641.62E,FCC1:M641.645,FCC2:M642.62D,FCC3:M642",
    ".645,FCC4:M643.62C,FCC5:M643.62D,FCC6:M643.62E,FCC7:M643.644,FCC8:M643.645,FCC9:M644.62C",
    ",FCCA:M644.62D,FCCB:M644.62E,FCCC:M644.645,FCCD:M644.647,FCCE:M645.62C,FCCF:M645.62D,FCD",
    "0:M645.62E,FCD1:M645.645,FCD2:M646.62C,FCD3:M646.62D,FCD4:M646.62E,FCD5:M646.645,FCD6:M6",
    "46.647,FCD7:M647.62C,FCD8:M647.645,FCD9:M647.670,FCDA:M64A.62C,FCDB:M64A.62D,FCDC:M64A.6",
    "2E,FCDD:M64A.645,FCDE:M64A.647,FCDF:M626.645,FCE0:M626.647,FCE1:M628.645,FCE2:M628.647,F",
    "CE3:M62A.645,FCE4:M62A.647,FCE5:M62B.645,FCE6:M62B.647,FCE7:M633.645,FCE8:M633.647,FCE9:",
    "M634.645,FCEA:M634.647,FCEB:M643.644,FCEC:M643.645,FCED:M644.645,FCEE:M646.645,FCEF:M646",
    ".647,FCF0:M64A.645,FCF1:M64A.647,FCF2:M640.64E.651,FCF3:M640.64F.651,FCF4:M640.650.651,F",
    "CF5:M637.649,FCF6:M637.64A,FCF7:M639.649,FCF8:M639.64A,FCF9:M63A.649,FCFA:M63A.64A,FCFB:",
    "M633.649,FCFC:M633.64A,FCFD:M634.649,FCFE:M634.64A,FCFF:M62D.649,FD00:M62D.64A,FD01:M62C",
    ".649,FD02:M62C.64A,FD03:M62E.649,FD04:M62E.64A,FD05:M635.649,FD06:M635.64A,FD07:M636.649",
    ",FD08:M636.64A,FD09:M634.62C,FD0A:M634.62D,FD0B:M634.62E,FD0C:M634.645,FD0D:M634.631,FD0",
    "E:M633.631,FD0F:M635.631,FD10:M636.631,FD11:M637.649,FD12:M637.64A,FD13:M639.649,FD14:M6",
    "39.64A,FD15:M63A.649,FD16:M63A.64A,FD17:M633.649,FD18:M633.64A,FD19:M634.649,FD1A:M634.6",
    "4A,FD1B:M62D.649,FD1C:M62D.64A,FD1D:M62C.649,FD1E:M62C.64A,FD1F:M62E.649,FD20:M62E.64A,F",
    "D21:M635.649,FD22:M635.64A,FD23:M636.649,FD24:M636.64A,FD25:M634.62C,FD26:M634.62D,FD27:",
    "M634.62E,FD28:M634.645,FD29:M634.631,FD2A:M633.631,FD2B:M635.631,FD2C:M636.631,FD2D:M634",
    ".62C,FD2E:M634.62D,FD2F:M634.62E,FD30:M634.645,FD31:M633.647,FD32:M634.647,FD33:M637.645",
    ",FD34:M633.62C,FD35:M633.62D,FD36:M633.62E,FD37:M634.62C,FD38:M634.62D,FD39:M634.62E,FD3",
    "A:M637.645,FD3B:M638.645,FD3C-FD3D:M627.64B,FD50:M62A.62C.645,FD51-FD52:M62A.62D.62C,FD5",
    "3:M62A.62D.645,FD54:M62A.62E.645,FD55:M62A.645.62C,FD56:M62A.645.62D,FD57:M62A.645.62E,F",
    "D58-FD59:M62C.645.62D,FD5A:M62D.645.64A,FD5B:M62D.645.649,FD5C:M633.62D.62C,FD5D:M633.62",
    "C.62D,FD5E:M633.62C.649,FD5F-FD60:M633.645.62D,FD61:M633.645.62C,FD62-FD63:M633.645.645,",
    "FD64-FD65:M635.62D.62D,FD66:M635.645.645,FD67-FD68:M634.62D.645,FD69:M634.62C.64A,FD6A-F",
    "D6B:M634.645.62E,FD6C-FD6D:M634.645.645,FD6E:M636.62D.649,FD6F-FD70:M636.62E.645,FD71-FD",
    "72:M637.645.62D,FD73:M637.645.645,FD74:M637.645.64A,FD75:M639.62C.645,FD76-FD77:M639.645",
    ".645,FD78:M639.645.649,FD79:M63A.645.645,FD7A:M63A.645.64A,FD7B:M63A.645.649,FD7C-FD7D:M",
    "641.62E.645,FD7E:M642.645.62D,FD7F:M642.645.645,FD80:M644.62D.645,FD81:M644.62D.64A,FD82",
    ":M644.62D.649,FD83-FD84:M644.62C.62C,FD85-FD86:M644.62E.645,FD87-FD88:M644.645.62D,FD89:",
    "M645.62D.62C,FD8A:M645.62D.645,FD8B:M645.62D.64A,FD8C:M645.62C.62D,FD8D:M645.62C.645,FD8",
    "E:M645.62E.62C,FD8F:M645.62E.645,FD92:M645.62C.62E,FD93:M647.645.62C,FD94:M647.645.645,F",
    "D95:M646.62D.645,FD96:M646.62D.649,FD97-FD98:M646.62C.645,FD99:M646.62C.649,FD9A:M646.64",
    "5.64A,FD9B:M646.645.649,FD9C-FD9D:M64A.645.645,FD9E:M628.62E.64A,FD9F:M62A.62C.64A,FDA0:",
    "M62A.62C.649,FDA1:M62A.62E.64A,FDA2:M62A.62E.649,FDA3:M62A.645.64A,FDA4:M62A.645.649,FDA",
    "5:M62C.645.64A,FDA6:M62C.62D.649,FDA7:M62C.645.649,FDA8:M633.62E.649,FDA9:M635.62D.64A,F",
    "DAA:M634.62D.64A,FDAB:M636.62D.64A,FDAC:M644.62C.64A,FDAD:M644.645.64A,FDAE:M64A.62D.64A",
    ",FDAF:M64A.62C.64A,FDB0:M64A.645.64A,FDB1:M645.645.64A,FDB2:M642.645.64A,FDB3:M646.62D.6",
    "4A,FDB4:M642.645.62D,FDB5:M644.62D.645,FDB6:M639.645.64A,FDB7:M643.645.64A,FDB8:M646.62C",
    ".62D,FDB9:M645.62E.64A,FDBA:M644.62C.645,FDBB:M643.645.645,FDBC:M644.62C.645,FDBD:M646.6",
    "2C.62D,FDBE:M62C.62D.64A,FDBF:M62D.62C.64A,FDC0:M645.62C.64A,FDC1:M641.645.64A,FDC2:M628",
    ".62D.64A,FDC3:M643.645.645,FDC4:M639.62C.645,FDC5:M635.645.645,FDC6:M633.62E.64A,FDC7:M6",
    "46.62C.64A,FDD0-FDEF:X,FDF0:M635.644.6D2,FDF1:M642.644.6D2,FDF2:M627.644.644.647,FDF3:M6",
    "27.643.628.631,FDF4:M645.62D.645.62F,FDF5:M635.644.639.645,FDF6:M631.633.648.644,FDF7:M6",
    "39.644.64A.647,FDF8:M648.633.644.645,FDF9:M635.644.649,FDFA:M635.644.649.20.627.644.644.",
    "647.20.639.644.64A.647.20.648.633.644.645,FDFB:M62C.644.20.62C.644.627.644.647,FDFC:M631",
    ".6CC.627.644,FE00-FE0F:I,FE10:M2C,FE11:M3001,FE12:X,FE13:M3A,FE14:M3B,FE15:M21,FE16:M3F,",
    "FE17:M3016,FE18:M3017,FE19:X,FE30:X,FE31:M2014,FE32:M2013,FE33-FE34:M5F,FE35:M28,FE36:M2",
    "9,FE37:M7B,FE38:M7D,FE39:M3014,FE3A:M3015,FE3B:M3010,FE3C:M3011,FE3D:M300A,FE3E:M300B,FE",
    "3F:M3008,FE40:M3009,FE41:M300C,FE42:M300D,FE43:M300E,FE44:M300F,FE47:M5B,FE48:M5D,FE49-F",
    "E4C:M20.305,FE4D-FE4F:M5F,FE50:M2C,FE51:M3001,FE52:X,FE54:M3B,FE55:M3A,FE56:M3F,FE57:M21",
    ",FE58:M2014,FE59:M28,FE5A:M29,FE5B:M7B,FE5C:M7D,FE5D:M3014,FE5E:M3015,FE5F:M23,FE60:M26,",
    "FE61:M2A,FE62:M2B,FE63:M2D,FE64:M3C,FE65:M3E,FE66:M3D,FE68:M5C,FE69:M24,FE6A:M25,FE6B:M4",
    "0,FE70:M20.64B,FE71:M640.64B,FE72:M20.64C,FE74:M20.64D,FE76:M20.64E,FE77:M640.64E,FE78:M",
    "20.64F,FE79:M640.64F,FE7A:M20.650,FE7B:M640.650,FE7C:M20.651,FE7D:M640.651,FE7E:M20.652,",
    "FE7F:M640.652,FE80:M621,FE81-FE82:M622,FE83-FE84:M623,FE85-FE86:M624,FE87-FE88:M625,FE89",
    "-FE8C:M626,FE8D-FE8E:M627,FE8F-FE92:M628,FE93-FE94:M629,FE95-FE98:M62A,FE99-FE9C:M62B,FE",
    "9D-FEA0:M62C,FEA1-FEA4:M62D,FEA5-FEA8:M62E,FEA9-FEAA:M62F,FEAB-FEAC:M630,FEAD-FEAE:M631,",
    "FEAF-FEB0:M632,FEB1-FEB4:M633,FEB5-FEB8:M634,FEB9-FEBC:M635,FEBD-FEC0:M636,FEC1-FEC4:M63",
    "7,FEC5-FEC8:M638,FEC9-FECC:M639,FECD-FED0:M63A,FED1-FED4:M641,FED5-FED8:M642,FED9-FEDC:M",
    "643,FEDD-FEE0:M644,FEE1-FEE4:M645,FEE5-FEE8:M646,FEE9-FEEC:M647,FEED-FEEE:M648,FEEF-FEF0",
    ":M649,FEF1-FEF4:M64A,FEF5-FEF6:M644.622,FEF7-FEF8:M644.623,FEF9-FEFA:M644.625,FEFB-FEFC:",
    "M644.627,FEFF:I,FF01:M21,FF02:M22,FF03:M23,FF04:M24,FF05:M25,FF06:M26,FF07:M27,FF08:M28,",
    "FF09:M29,FF0A:M2A,FF0B:M2B,FF0C:M2C,FF0D:M2D,FF0E:M2E,FF0F:M2F,FF10:M30,FF11:M31,FF12:M3",
    "2,FF13:M33,FF14:M34,FF15:M35,FF16:M36,FF17:M37,FF18:M38,FF19:M39,FF1A:M3A,FF1B:M3B,FF1C:",
    "M3C,FF1D:M3D,FF1E:M3E,FF1F:M3F,FF20:M40,FF21:M61,FF22:M62,FF23:M63,FF24:M64,FF25:M65,FF2",
    "6:M66,FF27:M67,FF28:M68,FF29:M69,FF2A:M6A,FF2B:M6B,FF2C:M6C,FF2D:M6D,FF2E:M6E,FF2F:M6F,F",
    "F30:M70,FF31:M71,FF32:M72,FF33:M73,FF34:M74,FF35:M75,FF36:M76,FF37:M77,FF38:M78,FF39:M79",
    ",FF3A:M7A,FF3B:M5B,FF3C:M5C,FF3D:M5D,FF3E:M5E,FF3F:M5F,FF40:M60,FF41:M61,FF42:M62,FF43:M",
    "63,FF44:M64,FF45:M65,FF46:M66,FF47:M67,FF48:M68,FF49:M69,FF4A:M6A,FF4B:M6B,FF4C:M6C,FF4D",
    ":M6D,FF4E:M6E,FF4F:M6F,FF50:M70,FF51:M71,FF52:M72,FF53:M73,FF54:M74,FF55:M75,FF56:M76,FF",
    "57:M77,FF58:M78,FF59:M79,FF5A:M7A,FF5B:M7B,FF5C:M7C,FF5D:M7D,FF5E:M7E,FF5F:M2985,FF60:M2",
    "986,FF61:M2E,FF62:M300C,FF63:M300D,FF64:M3001,FF65:M30FB,FF66:M30F2,FF67:M30A1,FF68:M30A",
    "3,FF69:M30A5,FF6A:M30A7,FF6B:M30A9,FF6C:M30E3,FF6D:M30E5,FF6E:M30E7,FF6F:M30C3,FF70:M30F",
    "C,FF71:M30A2,FF72:M30A4,FF73:M30A6,FF74:M30A8,FF75:M30AA,FF76:M30AB,FF77:M30AD,FF78:M30A",
    "F,FF79:M30B1,FF7A:M30B3,FF7B:M30B5,FF7C:M30B7,FF7D:M30B9,FF7E:M30BB,FF7F:M30BD,FF80:M30B",
    "F,FF81:M30C1,FF82:M30C4,FF83:M30C6,FF84:M30C8,FF85:M30CA,FF86:M30CB,FF87:M30CC,FF88:M30C",
    "D,FF89:M30CE,FF8A:M30CF,FF8B:M30D2,FF8C:M30D5,FF8D:M30D8,FF8E:M30DB,FF8F:M30DE,FF90:M30D",
    "F,FF91:M30E0,FF92:M30E1,FF93:M30E2,FF94:M30E4,FF95:M30E6,FF96:M30E8,FF97:M30E9,FF98:M30E",
    "A,FF99:M30EB,FF9A:M30EC,FF9B:M30ED,FF9C:M30EF,FF9D:M30F3,FF9E:M3099,FF9F:M309A,FFA0:I,FF",
    "A1:M1100,FFA2:M1101,FFA3:M11AA,FFA4:M1102,FFA5:M11AC,FFA6:M11AD,FFA7:M1103,FFA8:M1104,FF",
    "A9:M1105,FFAA:M11B0,FFAB:M11B1,FFAC:M11B2,FFAD:M11B3,FFAE:M11B4,FFAF:M11B5,FFB0:M111A,FF",
    "B1:M1106,FFB2:M1107,FFB3:M1108,FFB4:M1121,FFB5:M1109,FFB6:M110A,FFB7:M110B,FFB8:M110C,FF",
    "B9:M110D,FFBA:M110E,FFBB:M110F,FFBC:M1110,FFBD:M1111,FFBE:M1112,FFC2:M1161,FFC3:M1162,FF",
    "C4:M1163,FFC5:M1164,FFC6:M1165,FFC7:M1166,FFCA:M1167,FFCB:M1168,FFCC:M1169,FFCD:M116A,FF",
    "CE:M116B,FFCF:M116C,FFD2:M116D,FFD3:M116E,FFD4:M116F,FFD5:M1170,FFD6:M1171,FFD7:M1172,FF",
    "DA:M1173,FFDB:M1174,FFDC:M1175,FFE0:MA2,FFE1:MA3,FFE2:MAC,FFE3:M20.304,FFE4:MA6,FFE5:MA5",
    ",FFE6:M20A9,FFE8:M2502,FFE9:M2190,FFEA:M2191,FFEB:M2192,FFEC:M2193,FFED:M25A0,FFEE:M25CB",
    ",FFF9-FFFF:X,10400:M10428,10401:M10429,10402:M1042A,10403:M1042B,10404:M1042C,10405:M104",
    "2D,10406:M1042E,10407:M1042F,10408:M10430,10409:M10431,1040A:M10432,1040B:M10433,1040C:M",
    "10434,1040D:M10435,1040E:M10436,1040F:M10437,10410:M10438,10411:M10439,10412:M1043A,1041",
    "3:M1043B,10414:M1043C,10415:M1043D,10416:M1043E,10417:M1043F,10418:M10440,10419:M10441,1",
    "041A:M10442,1041B:M10443,1041C:M10444,1041D:M10445,1041E:M10446,1041F:M10447,10420:M1044",
    "8,10421:M10449,10422:M1044A,10423:M1044B,10424:M1044C,10425:M1044D,10426:M1044E,10427:M1",
    "044F,104B0:M104D8,104B1:M104D9,104B2:M104DA,104B3:M104DB,104B4:M104DC,104B5:M104DD,104B6",
    ":M104DE,104B7:M104DF,104B8:M104E0,104B9:M104E1,104BA:M104E2,104BB:M104E3,104BC:M104E4,10",
    "4BD:M104E5,104BE:M104E6,104BF:M104E7,104C0:M104E8,104C1:M104E9,104C2:M104EA,104C3:M104EB",
    ",104C4:M104EC,104C5:M104ED,104C6:M104EE,104C7:M104EF,104C8:M104F0,104C9:M104F1,104CA:M10",
    "4F2,104CB:M104F3,104CC:M104F4,104CD:M104F5,104CE:M104F6,104CF:M104F7,104D0:M104F8,104D1:",
    "M104F9,104D2:M104FA,104D3:M104FB,10570:M10597,10571:M10598,10572:M10599,10573:M1059A,105",
    "74:M1059B,10575:M1059C,10576:M1059D,10577:M1059E,10578:M1059F,10579:M105A0,1057A:M105A1,",
    "1057C:M105A3,1057D:M105A4,1057E:M105A5,1057F:M105A6,10580:M105A7,10581:M105A8,10582:M105",
    "A9,10583:M105AA,10584:M105AB,10585:M105AC,10586:M105AD,10587:M105AE,10588:M105AF,10589:M",
    "105B0,1058A:M105B1,1058C:M105B3,1058D:M105B4,1058E:M105B5,1058F:M105B6,10590:M105B7,1059",
    "1:M105B8,10592:M105B9,10594:M105BB,10595:M105BC,10781:M2D0,10782:M2D1,10783:ME6,10784:M2",
    "99,10785:M253,10787:M2A3,10788:MAB66,10789:M2A5,1078A:M2A4,1078B:M256,1078C:M257,1078D:M",
    "1D91,1078E:M258,1078F:M25E,10790:M2A9,10791:M264,10792:M262,10793:M260,10794:M29B,10795:",
    "M127,10796:M29C,10797:M267,10798:M284,10799:M2AA,1079A:M2AB,1079B:M26C,1079C:M1DF04,1079",
    "D:MA78E,1079E:M26E,1079F:M1DF05,107A0:M28E,107A1:M1DF06,107A2:MF8,107A3:M276,107A4:M277,",
    "107A5:M71,107A6:M27A,107A7:M1DF08,107A8:M27D,107A9:M27E,107AA:M280,107AB:M2A8,107AC:M2A6",
    ",107AD:MAB67,107AE:M2A7,107AF:M288,107B0:M2C71,107B2:M28F,107B3:M2A1,107B4:M2A2,107B5:M2",
    "98,107B6:M1C0,107B7:M1C1,107B8:M1C2,107B9:M1DF0A,107BA:M1DF1E,107BB:M287,10C80:M10CC0,10",
    "C81:M10CC1,10C82:M10CC2,10C83:M10CC3,10C84:M10CC4,10C85:M10CC5,10C86:M10CC6,10C87:M10CC7",
    ",10C88:M10CC8,10C89:M10CC9,10C8A:M10CCA,10C8B:M10CCB,10C8C:M10CCC,10C8D:M10CCD,10C8E:M10",
    "CCE,10C8F:M10CCF,10C90:M10CD0,10C91:M10CD1,10C92:M10CD2,10C93:M10CD3,10C94:M10CD4,10C95:",
    "M10CD5,10C96:M10CD6,10C97:M10CD7,10C98:M10CD8,10C99:M10CD9,10C9A:M10CDA,10C9B:M10CDB,10C",
    "9C:M10CDC,10C9D:M10CDD,10C9E:M10CDE,10C9F:M10CDF,10CA0:M10CE0,10CA1:M10CE1,10CA2:M10CE2,",
    "10CA3:M10CE3,10CA4:M10CE4,10CA5:M10CE5,10CA6:M10CE6,10CA7:M10CE7,10CA8:M10CE8,10CA9:M10C",
    "E9,10CAA:M10CEA,10CAB:M10CEB,10CAC:M10CEC,10CAD:M10CED,10CAE:M10CEE,10CAF:M10CEF,10CB0:M",
    "10CF0,10CB1:M10CF1,10CB2:M10CF2,10D50:M10D70,10D51:M10D71,10D52:M10D72,10D53:M10D73,10D5",
    "4:M10D74,10D55:M10D75,10D56:M10D76,10D57:M10D77,10D58:M10D78,10D59:M10D79,10D5A:M10D7A,1",
    "0D5B:M10D7B,10D5C:M10D7C,10D5D:M10D7D,10D5E:M10D7E,10D5F:M10D7F,10D60:M10D80,10D61:M10D8",
    "1,10D62:M10D82,10D63:M10D83,10D64:M10D84,10D65:M10D85,110BD:X,110CD:X,118A0:M118C0,118A1",
    ":M118C1,118A2:M118C2,118A3:M118C3,118A4:M118C4,118A5:M118C5,118A6:M118C6,118A7:M118C7,11",
    "8A8:M118C8,118A9:M118C9,118AA:M118CA,118AB:M118CB,118AC:M118CC,118AD:M118CD,118AE:M118CE",
    ",118AF:M118CF,118B0:M118D0,118B1:M118D1,118B2:M118D2,118B3:M118D3,118B4:M118D4,118B5:M11",
    "8D5,118B6:M118D6,118B7:M118D7,118B8:M118D8,118B9:M118D9,118BA:M118DA,118BB:M118DB,118BC:",
    "M118DC,118BD:M118DD,118BE:M118DE,118BF:M118DF,13430-1343F:X,16E40:M16E60,16E41:M16E61,16",
    "E42:M16E62,16E43:M16E63,16E44:M16E64,16E45:M16E65,16E46:M16E66,16E47:M16E67,16E48:M16E68",
    ",16E49:M16E69,16E4A:M16E6A,16E4B:M16E6B,16E4C:M16E6C,16E4D:M16E6D,16E4E:M16E6E,16E4F:M16",
    "E6F,16E50:M16E70,16E51:M16E71,16E52:M16E72,16E53:M16E73,16E54:M16E74,16E55:M16E75,16E56:",
    "M16E76,16E57:M16E77,16E58:M16E78,16E59:M16E79,16E5A:M16E7A,16E5B:M16E7B,16E5C:M16E7C,16E",
    "5D:M16E7D,16E5E:M16E7E,16E5F:M16E7F,16EA0:M16EBB,16EA1:M16EBC,16EA2:M16EBD,16EA3:M16EBE,",
    "16EA4:M16EBF,16EA5:M16EC0,16EA6:M16EC1,16EA7:M16EC2,16EA8:M16EC3,16EA9:M16EC4,16EAA:M16E",
    "C5,16EAB:M16EC6,16EAC:M16EC7,16EAD:M16EC8,16EAE:M16EC9,16EAF:M16ECA,16EB0:M16ECB,16EB1:M",
    "16ECC,16EB2:M16ECD,16EB3:M16ECE,16EB4:M16ECF,16EB5:M16ED0,16EB6:M16ED1,16EB7:M16ED2,16EB",
    "8:M16ED3,1B123:M3053.3068,1BCA0-1BCA3:I,1CCD6:M61,1CCD7:M62,1CCD8:M63,1CCD9:M64,1CCDA:M6",
    "5,1CCDB:M66,1CCDC:M67,1CCDD:M68,1CCDE:M69,1CCDF:M6A,1CCE0:M6B,1CCE1:M6C,1CCE2:M6D,1CCE3:",
    "M6E,1CCE4:M6F,1CCE5:M70,1CCE6:M71,1CCE7:M72,1CCE8:M73,1CCE9:M74,1CCEA:M75,1CCEB:M76,1CCE",
    "C:M77,1CCED:M78,1CCEE:M79,1CCEF:M7A,1CCF0:M30,1CCF1:M31,1CCF2:M32,1CCF3:M33,1CCF4:M34,1C",
    "CF5:M35,1CCF6:M36,1CCF7:M37,1CCF8:M38,1CCF9:M39,1D15E:M1D157.1D165,1D15F:M1D158.1D165,1D",
    "160:M1D158.1D165.1D16E,1D161:M1D158.1D165.1D16F,1D162:M1D158.1D165.1D170,1D163:M1D158.1D",
    "165.1D171,1D164:M1D158.1D165.1D172,1D173-1D17A:I,1D1BB:M1D1B9.1D165,1D1BC:M1D1BA.1D165,1",
    "D1BD:M1D1B9.1D165.1D16E,1D1BE:M1D1BA.1D165.1D16E,1D1BF:M1D1B9.1D165.1D16F,1D1C0:M1D1BA.1",
    "D165.1D16F,1D400:M61,1D401:M62,1D402:M63,1D403:M64,1D404:M65,1D405:M66,1D406:M67,1D407:M",
    "68,1D408:M69,1D409:M6A,1D40A:M6B,1D40B:M6C,1D40C:M6D,1D40D:M6E,1D40E:M6F,1D40F:M70,1D410",
    ":M71,1D411:M72,1D412:M73,1D413:M74,1D414:M75,1D415:M76,1D416:M77,1D417:M78,1D418:M79,1D4",
    "19:M7A,1D41A:M61,1D41B:M62,1D41C:M63,1D41D:M64,1D41E:M65,1D41F:M66,1D420:M67,1D421:M68,1",
    "D422:M69,1D423:M6A,1D424:M6B,1D425:M6C,1D426:M6D,1D427:M6E,1D428:M6F,1D429:M70,1D42A:M71",
    ",1D42B:M72,1D42C:M73,1D42D:M74,1D42E:M75,1D42F:M76,1D430:M77,1D431:M78,1D432:M79,1D433:M",
    "7A,1D434:M61,1D435:M62,1D436:M63,1D437:M64,1D438:M65,1D439:M66,1D43A:M67,1D43B:M68,1D43C",
    ":M69,1D43D:M6A,1D43E:M6B,1D43F:M6C,1D440:M6D,1D441:M6E,1D442:M6F,1D443:M70,1D444:M71,1D4",
    "45:M72,1D446:M73,1D447:M74,1D448:M75,1D449:M76,1D44A:M77,1D44B:M78,1D44C:M79,1D44D:M7A,1",
    "D44E:M61,1D44F:M62,1D450:M63,1D451:M64,1D452:M65,1D453:M66,1D454:M67,1D456:M69,1D457:M6A",
    ",1D458:M6B,1D459:M6C,1D45A:M6D,1D45B:M6E,1D45C:M6F,1D45D:M70,1D45E:M71,1D45F:M72,1D460:M",
    "73,1D461:M74,1D462:M75,1D463:M76,1D464:M77,1D465:M78,1D466:M79,1D467:M7A,1D468:M61,1D469",
    ":M62,1D46A:M63,1D46B:M64,1D46C:M65,1D46D:M66,1D46E:M67,1D46F:M68,1D470:M69,1D471:M6A,1D4",
    "72:M6B,1D473:M6C,1D474:M6D,1D475:M6E,1D476:M6F,1D477:M70,1D478:M71,1D479:M72,1D47A:M73,1",
    "D47B:M74,1D47C:M75,1D47D:M76,1D47E:M77,1D47F:M78,1D480:M79,1D481:M7A,1D482:M61,1D483:M62",
    ",1D484:M63,1D485:M64,1D486:M65,1D487:M66,1D488:M67,1D489:M68,1D48A:M69,1D48B:M6A,1D48C:M",
    "6B,1D48D:M6C,1D48E:M6D,1D48F:M6E,1D490:M6F,1D491:M70,1D492:M71,1D493:M72,1D494:M73,1D495",
    ":M74,1D496:M75,1D497:M76,1D498:M77,1D499:M78,1D49A:M79,1D49B:M7A,1D49C:M61,1D49E:M63,1D4",
    "9F:M64,1D4A2:M67,1D4A5:M6A,1D4A6:M6B,1D4A9:M6E,1D4AA:M6F,1D4AB:M70,1D4AC:M71,1D4AE:M73,1",
    "D4AF:M74,1D4B0:M75,1D4B1:M76,1D4B2:M77,1D4B3:M78,1D4B4:M79,1D4B5:M7A,1D4B6:M61,1D4B7:M62",
    ",1D4B8:M63,1D4B9:M64,1D4BB:M66,1D4BD:M68,1D4BE:M69,1D4BF:M6A,1D4C0:M6B,1D4C1:M6C,1D4C2:M",
    "6D,1D4C3:M6E,1D4C5:M70,1D4C6:M71,1D4C7:M72,1D4C8:M73,1D4C9:M74,1D4CA:M75,1D4CB:M76,1D4CC",
    ":M77,1D4CD:M78,1D4CE:M79,1D4CF:M7A,1D4D0:M61,1D4D1:M62,1D4D2:M63,1D4D3:M64,1D4D4:M65,1D4",
    "D5:M66,1D4D6:M67,1D4D7:M68,1D4D8:M69,1D4D9:M6A,1D4DA:M6B,1D4DB:M6C,1D4DC:M6D,1D4DD:M6E,1",
    "D4DE:M6F,1D4DF:M70,1D4E0:M71,1D4E1:M72,1D4E2:M73,1D4E3:M74,1D4E4:M75,1D4E5:M76,1D4E6:M77",
    ",1D4E7:M78,1D4E8:M79,1D4E9:M7A,1D4EA:M61,1D4EB:M62,1D4EC:M63,1D4ED:M64,1D4EE:M65,1D4EF:M",
    "66,1D4F0:M67,1D4F1:M68,1D4F2:M69,1D4F3:M6A,1D4F4:M6B,1D4F5:M6C,1D4F6:M6D,1D4F7:M6E,1D4F8",
    ":M6F,1D4F9:M70,1D4FA:M71,1D4FB:M72,1D4FC:M73,1D4FD:M74,1D4FE:M75,1D4FF:M76,1D500:M77,1D5",
    "01:M78,1D502:M79,1D503:M7A,1D504:M61,1D505:M62,1D507:M64,1D508:M65,1D509:M66,1D50A:M67,1",
    "D50D:M6A,1D50E:M6B,1D50F:M6C,1D510:M6D,1D511:M6E,1D512:M6F,1D513:M70,1D514:M71,1D516:M73",
    ",1D517:M74,1D518:M75,1D519:M76,1D51A:M77,1D51B:M78,1D51C:M79,1D51E:M61,1D51F:M62,1D520:M",
    "63,1D521:M64,1D522:M65,1D523:M66,1D524:M67,1D525:M68,1D526:M69,1D527:M6A,1D528:M6B,1D529",
    ":M6C,1D52A:M6D,1D52B:M6E,1D52C:M6F,1D52D:M70,1D52E:M71,1D52F:M72,1D530:M73,1D531:M74,1D5",
    "32:M75,1D533:M76,1D534:M77,1D535:M78,1D536:M79,1D537:M7A,1D538:M61,1D539:M62,1D53B:M64,1",
    "D53C:M65,1D53D:M66,1D53E:M67,1D540:M69,1D541:M6A,1D542:M6B,1D543:M6C,1D544:M6D,1D546:M6F",
    ",1D54A:M73,1D54B:M74,1D54C:M75,1D54D:M76,1D54E:M77,1D54F:M78,1D550:M79,1D552:M61,1D553:M",
    "62,1D554:M63,1D555:M64,1D556:M65,1D557:M66,1D558:M67,1D559:M68,1D55A:M69,1D55B:M6A,1D55C",
    ":M6B,1D55D:M6C,1D55E:M6D,1D55F:M6E,1D560:M6F,1D561:M70,1D562:M71,1D563:M72,1D564:M73,1D5",
    "65:M74,1D566:M75,1D567:M76,1D568:M77,1D569:M78,1D56A:M79,1D56B:M7A,1D56C:M61,1D56D:M62,1",
    "D56E:M63,1D56F:M64,1D570:M65,1D571:M66,1D572:M67,1D573:M68,1D574:M69,1D575:M6A,1D576:M6B",
    ",1D577:M6C,1D578:M6D,1D579:M6E,1D57A:M6F,1D57B:M70,1D57C:M71,1D57D:M72,1D57E:M73,1D57F:M",
    "74,1D580:M75,1D581:M76,1D582:M77,1D583:M78,1D584:M79,1D585:M7A,1D586:M61,1D587:M62,1D588",
    ":M63,1D589:M64,1D58A:M65,1D58B:M66,1D58C:M67,1D58D:M68,1D58E:M69,1D58F:M6A,1D590:M6B,1D5",
    "91:M6C,1D592:M6D,1D593:M6E,1D594:M6F,1D595:M70,1D596:M71,1D597:M72,1D598:M73,1D599:M74,1",
    "D59A:M75,1D59B:M76,1D59C:M77,1D59D:M78,1D59E:M79,1D59F:M7A,1D5A0:M61,1D5A1:M62,1D5A2:M63",
    ",1D5A3:M64,1D5A4:M65,1D5A5:M66,1D5A6:M67,1D5A7:M68,1D5A8:M69,1D5A9:M6A,1D5AA:M6B,1D5AB:M",
    "6C,1D5AC:M6D,1D5AD:M6E,1D5AE:M6F,1D5AF:M70,1D5B0:M71,1D5B1:M72,1D5B2:M73,1D5B3:M74,1D5B4",
    ":M75,1D5B5:M76,1D5B6:M77,1D5B7:M78,1D5B8:M79,1D5B9:M7A,1D5BA:M61,1D5BB:M62,1D5BC:M63,1D5",
    "BD:M64,1D5BE:M65,1D5BF:M66,1D5C0:M67,1D5C1:M68,1D5C2:M69,1D5C3:M6A,1D5C4:M6B,1D5C5:M6C,1",
    "D5C6:M6D,1D5C7:M6E,1D5C8:M6F,1D5C9:M70,1D5CA:M71,1D5CB:M72,1D5CC:M73,1D5CD:M74,1D5CE:M75",
    ",1D5CF:M76,1D5D0:M77,1D5D1:M78,1D5D2:M79,1D5D3:M7A,1D5D4:M61,1D5D5:M62,1D5D6:M63,1D5D7:M",
    "64,1D5D8:M65,1D5D9:M66,1D5DA:M67,1D5DB:M68,1D5DC:M69,1D5DD:M6A,1D5DE:M6B,1D5DF:M6C,1D5E0",
    ":M6D,1D5E1:M6E,1D5E2:M6F,1D5E3:M70,1D5E4:M71,1D5E5:M72,1D5E6:M73,1D5E7:M74,1D5E8:M75,1D5",
    "E9:M76,1D5EA:M77,1D5EB:M78,1D5EC:M79,1D5ED:M7A,1D5EE:M61,1D5EF:M62,1D5F0:M63,1D5F1:M64,1",
    "D5F2:M65,1D5F3:M66,1D5F4:M67,1D5F5:M68,1D5F6:M69,1D5F7:M6A,1D5F8:M6B,1D5F9:M6C,1D5FA:M6D",
    ",1D5FB:M6E,1D5FC:M6F,1D5FD:M70,1D5FE:M71,1D5FF:M72,1D600:M73,1D601:M74,1D602:M75,1D603:M",
    "76,1D604:M77,1D605:M78,1D606:M79,1D607:M7A,1D608:M61,1D609:M62,1D60A:M63,1D60B:M64,1D60C",
    ":M65,1D60D:M66,1D60E:M67,1D60F:M68,1D610:M69,1D611:M6A,1D612:M6B,1D613:M6C,1D614:M6D,1D6",
    "15:M6E,1D616:M6F,1D617:M70,1D618:M71,1D619:M72,1D61A:M73,1D61B:M74,1D61C:M75,1D61D:M76,1",
    "D61E:M77,1D61F:M78,1D620:M79,1D621:M7A,1D622:M61,1D623:M62,1D624:M63,1D625:M64,1D626:M65",
    ",1D627:M66,1D628:M67,1D629:M68,1D62A:M69,1D62B:M6A,1D62C:M6B,1D62D:M6C,1D62E:M6D,1D62F:M",
    "6E,1D630:M6F,1D631:M70,1D632:M71,1D633:M72,1D634:M73,1D635:M74,1D636:M75,1D637:M76,1D638",
    ":M77,1D639:M78,1D63A:M79,1D63B:M7A,1D63C:M61,1D63D:M62,1D63E:M63,1D63F:M64,1D640:M65,1D6",
    "41:M66,1D642:M67,1D643:M68,1D644:M69,1D645:M6A,1D646:M6B,1D647:M6C,1D648:M6D,1D649:M6E,1",
    "D64A:M6F,1D64B:M70,1D64C:M71,1D64D:M72,1D64E:M73,1D64F:M74,1D650:M75,1D651:M76,1D652:M77",
    ",1D653:M78,1D654:M79,1D655:M7A,1D656:M61,1D657:M62,1D658:M63,1D659:M64,1D65A:M65,1D65B:M",
    "66,1D65C:M67,1D65D:M68,1D65E:M69,1D65F:M6A,1D660:M6B,1D661:M6C,1D662:M6D,1D663:M6E,1D664",
    ":M6F,1D665:M70,1D666:M71,1D667:M72,1D668:M73,1D669:M74,1D66A:M75,1D66B:M76,1D66C:M77,1D6",
    "6D:M78,1D66E:M79,1D66F:M7A,1D670:M61,1D671:M62,1D672:M63,1D673:M64,1D674:M65,1D675:M66,1",
    "D676:M67,1D677:M68,1D678:M69,1D679:M6A,1D67A:M6B,1D67B:M6C,1D67C:M6D,1D67D:M6E,1D67E:M6F",
    ",1D67F:M70,1D680:M71,1D681:M72,1D682:M73,1D683:M74,1D684:M75,1D685:M76,1D686:M77,1D687:M",
    "78,1D688:M79,1D689:M7A,1D68A:M61,1D68B:M62,1D68C:M63,1D68D:M64,1D68E:M65,1D68F:M66,1D690",
    ":M67,1D691:M68,1D692:M69,1D693:M6A,1D694:M6B,1D695:M6C,1D696:M6D,1D697:M6E,1D698:M6F,1D6",
    "99:M70,1D69A:M71,1D69B:M72,1D69C:M73,1D69D:M74,1D69E:M75,1D69F:M76,1D6A0:M77,1D6A1:M78,1",
    "D6A2:M79,1D6A3:M7A,1D6A4:M131,1D6A5:M237,1D6A8:M3B1,1D6A9:M3B2,1D6AA:M3B3,1D6AB:M3B4,1D6",
    "AC:M3B5,1D6AD:M3B6,1D6AE:M3B7,1D6AF:M3B8,1D6B0:M3B9,1D6B1:M3BA,1D6B2:M3BB,1D6B3:M3BC,1D6",
    "B4:M3BD,1D6B5:M3BE,1D6B6:M3BF,1D6B7:M3C0,1D6B8:M3C1,1D6B9:M3B8,1D6BA:M3C3,1D6BB:M3C4,1D6",
    "BC:M3C5,1D6BD:M3C6,1D6BE:M3C7,1D6BF:M3C8,1D6C0:M3C9,1D6C1:M2207,1D6C2:M3B1,1D6C3:M3B2,1D",
    "6C4:M3B3,1D6C5:M3B4,1D6C6:M3B5,1D6C7:M3B6,1D6C8:M3B7,1D6C9:M3B8,1D6CA:M3B9,1D6CB:M3BA,1D",
    "6CC:M3BB,1D6CD:M3BC,1D6CE:M3BD,1D6CF:M3BE,1D6D0:M3BF,1D6D1:M3C0,1D6D2:M3C1,1D6D3-1D6D4:M",
    "3C3,1D6D5:M3C4,1D6D6:M3C5,1D6D7:M3C6,1D6D8:M3C7,1D6D9:M3C8,1D6DA:M3C9,1D6DB:M2202,1D6DC:",
    "M3B5,1D6DD:M3B8,1D6DE:M3BA,1D6DF:M3C6,1D6E0:M3C1,1D6E1:M3C0,1D6E2:M3B1,1D6E3:M3B2,1D6E4:",
    "M3B3,1D6E5:M3B4,1D6E6:M3B5,1D6E7:M3B6,1D6E8:M3B7,1D6E9:M3B8,1D6EA:M3B9,1D6EB:M3BA,1D6EC:",
    "M3BB,1D6ED:M3BC,1D6EE:M3BD,1D6EF:M3BE,1D6F0:M3BF,1D6F1:M3C0,1D6F2:M3C1,1D6F3:M3B8,1D6F4:",
    "M3C3,1D6F5:M3C4,1D6F6:M3C5,1D6F7:M3C6,1D6F8:M3C7,1D6F9:M3C8,1D6FA:M3C9,1D6FB:M2207,1D6FC",
    ":M3B1,1D6FD:M3B2,1D6FE:M3B3,1D6FF:M3B4,1D700:M3B5,1D701:M3B6,1D702:M3B7,1D703:M3B8,1D704",
    ":M3B9,1D705:M3BA,1D706:M3BB,1D707:M3BC,1D708:M3BD,1D709:M3BE,1D70A:M3BF,1D70B:M3C0,1D70C",
    ":M3C1,1D70D-1D70E:M3C3,1D70F:M3C4,1D710:M3C5,1D711:M3C6,1D712:M3C7,1D713:M3C8,1D714:M3C9",
    ",1D715:M2202,1D716:M3B5,1D717:M3B8,1D718:M3BA,1D719:M3C6,1D71A:M3C1,1D71B:M3C0,1D71C:M3B",
    "1,1D71D:M3B2,1D71E:M3B3,1D71F:M3B4,1D720:M3B5,1D721:M3B6,1D722:M3B7,1D723:M3B8,1D724:M3B",
    "9,1D725:M3BA,1D726:M3BB,1D727:M3BC,1D728:M3BD,1D729:M3BE,1D72A:M3BF,1D72B:M3C0,1D72C:M3C",
    "1,1D72D:M3B8,1D72E:M3C3,1D72F:M3C4,1D730:M3C5,1D731:M3C6,1D732:M3C7,1D733:M3C8,1D734:M3C",
    "9,1D735:M2207,1D736:M3B1,1D737:M3B2,1D738:M3B3,1D739:M3B4,1D73A:M3B5,1D73B:M3B6,1D73C:M3",
    "B7,1D73D:M3B8,1D73E:M3B9,1D73F:M3BA,1D740:M3BB,1D741:M3BC,1D742:M3BD,1D743:M3BE,1D744:M3",
    "BF,1D745:M3C0,1D746:M3C1,1D747-1D748:M3C3,1D749:M3C4,1D74A:M3C5,1D74B:M3C6,1D74C:M3C7,1D",
    "74D:M3C8,1D74E:M3C9,1D74F:M2202,1D750:M3B5,1D751:M3B8,1D752:M3BA,1D753:M3C6,1D754:M3C1,1",
    "D755:M3C0,1D756:M3B1,1D757:M3B2,1D758:M3B3,1D759:M3B4,1D75A:M3B5,1D75B:M3B6,1D75C:M3B7,1",
    "D75D:M3B8,1D75E:M3B9,1D75F:M3BA,1D760:M3BB,1D761:M3BC,1D762:M3BD,1D763:M3BE,1D764:M3BF,1",
    "D765:M3C0,1D766:M3C1,1D767:M3B8,1D768:M3C3,1D769:M3C4,1D76A:M3C5,1D76B:M3C6,1D76C:M3C7,1",
    "D76D:M3C8,1D76E:M3C9,1D76F:M2207,1D770:M3B1,1D771:M3B2,1D772:M3B3,1D773:M3B4,1D774:M3B5,",
    "1D775:M3B6,1D776:M3B7,1D777:M3B8,1D778:M3B9,1D779:M3BA,1D77A:M3BB,1D77B:M3BC,1D77C:M3BD,",
    "1D77D:M3BE,1D77E:M3BF,1D77F:M3C0,1D780:M3C1,1D781-1D782:M3C3,1D783:M3C4,1D784:M3C5,1D785",
    ":M3C6,1D786:M3C7,1D787:M3C8,1D788:M3C9,1D789:M2202,1D78A:M3B5,1D78B:M3B8,1D78C:M3BA,1D78",
    "D:M3C6,1D78E:M3C1,1D78F:M3C0,1D790:M3B1,1D791:M3B2,1D792:M3B3,1D793:M3B4,1D794:M3B5,1D79",
    "5:M3B6,1D796:M3B7,1D797:M3B8,1D798:M3B9,1D799:M3BA,1D79A:M3BB,1D79B:M3BC,1D79C:M3BD,1D79",
    "D:M3BE,1D79E:M3BF,1D79F:M3C0,1D7A0:M3C1,1D7A1:M3B8,1D7A2:M3C3,1D7A3:M3C4,1D7A4:M3C5,1D7A",
    "5:M3C6,1D7A6:M3C7,1D7A7:M3C8,1D7A8:M3C9,1D7A9:M2207,1D7AA:M3B1,1D7AB:M3B2,1D7AC:M3B3,1D7",
    "AD:M3B4,1D7AE:M3B5,1D7AF:M3B6,1D7B0:M3B7,1D7B1:M3B8,1D7B2:M3B9,1D7B3:M3BA,1D7B4:M3BB,1D7",
    "B5:M3BC,1D7B6:M3BD,1D7B7:M3BE,1D7B8:M3BF,1D7B9:M3C0,1D7BA:M3C1,1D7BB-1D7BC:M3C3,1D7BD:M3",
    "C4,1D7BE:M3C5,1D7BF:M3C6,1D7C0:M3C7,1D7C1:M3C8,1D7C2:M3C9,1D7C3:M2202,1D7C4:M3B5,1D7C5:M",
    "3B8,1D7C6:M3BA,1D7C7:M3C6,1D7C8:M3C1,1D7C9:M3C0,1D7CA-1D7CB:M3DD,1D7CE:M30,1D7CF:M31,1D7",
    "D0:M32,1D7D1:M33,1D7D2:M34,1D7D3:M35,1D7D4:M36,1D7D5:M37,1D7D6:M38,1D7D7:M39,1D7D8:M30,1",
    "D7D9:M31,1D7DA:M32,1D7DB:M33,1D7DC:M34,1D7DD:M35,1D7DE:M36,1D7DF:M37,1D7E0:M38,1D7E1:M39",
    ",1D7E2:M30,1D7E3:M31,1D7E4:M32,1D7E5:M33,1D7E6:M34,1D7E7:M35,1D7E8:M36,1D7E9:M37,1D7EA:M",
    "38,1D7EB:M39,1D7EC:M30,1D7ED:M31,1D7EE:M32,1D7EF:M33,1D7F0:M34,1D7F1:M35,1D7F2:M36,1D7F3",
    ":M37,1D7F4:M38,1D7F5:M39,1D7F6:M30,1D7F7:M31,1D7F8:M32,1D7F9:M33,1D7FA:M34,1D7FB:M35,1D7",
    "FC:M36,1D7FD:M37,1D7FE:M38,1D7FF:M39,1DFFF:M1DF09,1E030:M430,1E031:M431,1E032:M432,1E033",
    ":M433,1E034:M434,1E035:M435,1E036:M436,1E037:M437,1E038:M438,1E039:M43A,1E03A:M43B,1E03B",
    ":M43C,1E03C:M43E,1E03D:M43F,1E03E:M440,1E03F:M441,1E040:M442,1E041:M443,1E042:M444,1E043",
    ":M445,1E044:M446,1E045:M447,1E046:M448,1E047:M44B,1E048:M44D,1E049:M44E,1E04A:MA689,1E04",
    "B:M4D9,1E04C:M456,1E04D:M458,1E04E:M4E9,1E04F:M4AF,1E050:M4CF,1E051:M430,1E052:M431,1E05",
    "3:M432,1E054:M433,1E055:M434,1E056:M435,1E057:M436,1E058:M437,1E059:M438,1E05A:M43A,1E05",
    "B:M43B,1E05C:M43E,1E05D:M43F,1E05E:M441,1E05F:M443,1E060:M444,1E061:M445,1E062:M446,1E06",
    "3:M447,1E064:M448,1E065:M44A,1E066:M44B,1E067:M491,1E068:M456,1E069:M455,1E06A:M45F,1E06",
    "B:M4AB,1E06C:MA651,1E06D:M4B1,1E900:M1E922,1E901:M1E923,1E902:M1E924,1E903:M1E925,1E904:",
    "M1E926,1E905:M1E927,1E906:M1E928,1E907:M1E929,1E908:M1E92A,1E909:M1E92B,1E90A:M1E92C,1E9",
    "0B:M1E92D,1E90C:M1E92E,1E90D:M1E92F,1E90E:M1E930,1E90F:M1E931,1E910:M1E932,1E911:M1E933,",
    "1E912:M1E934,1E913:M1E935,1E914:M1E936,1E915:M1E937,1E916:M1E938,1E917:M1E939,1E918:M1E9",
    "3A,1E919:M1E93B,1E91A:M1E93C,1E91B:M1E93D,1E91C:M1E93E,1E91D:M1E93F,1E91E:M1E940,1E91F:M",
    "1E941,1E920:M1E942,1E921:M1E943,1EE00:M627,1EE01:M628,1EE02:M62C,1EE03:M62F,1EE05:M648,1",
    "EE06:M632,1EE07:M62D,1EE08:M637,1EE09:M64A,1EE0A:M643,1EE0B:M644,1EE0C:M645,1EE0D:M646,1",
    "EE0E:M633,1EE0F:M639,1EE10:M641,1EE11:M635,1EE12:M642,1EE13:M631,1EE14:M634,1EE15:M62A,1",
    "EE16:M62B,1EE17:M62E,1EE18:M630,1EE19:M636,1EE1A:M638,1EE1B:M63A,1EE1C:M66E,1EE1D:M6BA,1",
    "EE1E:M6A1,1EE1F:M66F,1EE21:M628,1EE22:M62C,1EE24:M647,1EE27:M62D,1EE29:M64A,1EE2A:M643,1",
    "EE2B:M644,1EE2C:M645,1EE2D:M646,1EE2E:M633,1EE2F:M639,1EE30:M641,1EE31:M635,1EE32:M642,1",
    "EE34:M634,1EE35:M62A,1EE36:M62B,1EE37:M62E,1EE39:M636,1EE3B:M63A,1EE42:M62C,1EE47:M62D,1",
    "EE49:M64A,1EE4B:M644,1EE4D:M646,1EE4E:M633,1EE4F:M639,1EE51:M635,1EE52:M642,1EE54:M634,1",
    "EE57:M62E,1EE59:M636,1EE5B:M63A,1EE5D:M6BA,1EE5F:M66F,1EE61:M628,1EE62:M62C,1EE64:M647,1",
    "EE67:M62D,1EE68:M637,1EE69:M64A,1EE6A:M643,1EE6C:M645,1EE6D:M646,1EE6E:M633,1EE6F:M639,1",
    "EE70:M641,1EE71:M635,1EE72:M642,1EE74:M634,1EE75:M62A,1EE76:M62B,1EE77:M62E,1EE79:M636,1",
    "EE7A:M638,1EE7B:M63A,1EE7C:M66E,1EE7E:M6A1,1EE80:M627,1EE81:M628,1EE82:M62C,1EE83:M62F,1",
    "EE84:M647,1EE85:M648,1EE86:M632,1EE87:M62D,1EE88:M637,1EE89:M64A,1EE8B:M644,1EE8C:M645,1",
    "EE8D:M646,1EE8E:M633,1EE8F:M639,1EE90:M641,1EE91:M635,1EE92:M642,1EE93:M631,1EE94:M634,1",
    "EE95:M62A,1EE96:M62B,1EE97:M62E,1EE98:M630,1EE99:M636,1EE9A:M638,1EE9B:M63A,1EEA1:M628,1",
    "EEA2:M62C,1EEA3:M62F,1EEA5:M648,1EEA6:M632,1EEA7:M62D,1EEA8:M637,1EEA9:M64A,1EEAB:M644,1",
    "EEAC:M645,1EEAD:M646,1EEAE:M633,1EEAF:M639,1EEB0:M641,1EEB1:M635,1EEB2:M642,1EEB3:M631,1",
    "EEB4:M634,1EEB5:M62A,1EEB6:M62B,1EEB7:M62E,1EEB8:M630,1EEB9:M636,1EEBA:M638,1EEBB:M63A,1",
    "F100:X,1F101:M30.2C,1F102:M31.2C,1F103:M32.2C,1F104:M33.2C,1F105:M34.2C,1F106:M35.2C,1F1",
    "07:M36.2C,1F108:M37.2C,1F109:M38.2C,1F10A:M39.2C,1F110:M28.61.29,1F111:M28.62.29,1F112:M",
    "28.63.29,1F113:M28.64.29,1F114:M28.65.29,1F115:M28.66.29,1F116:M28.67.29,1F117:M28.68.29",
    ",1F118:M28.69.29,1F119:M28.6A.29,1F11A:M28.6B.29,1F11B:M28.6C.29,1F11C:M28.6D.29,1F11D:M",
    "28.6E.29,1F11E:M28.6F.29,1F11F:M28.70.29,1F120:M28.71.29,1F121:M28.72.29,1F122:M28.73.29",
    ",1F123:M28.74.29,1F124:M28.75.29,1F125:M28.76.29,1F126:M28.77.29,1F127:M28.78.29,1F128:M",
    "28.79.29,1F129:M28.7A.29,1F12A:M3014.73.3015,1F12B:M63,1F12C:M72,1F12D:M63.64,1F12E:M77.",
    "7A,1F130:M61,1F131:M62,1F132:M63,1F133:M64,1F134:M65,1F135:M66,1F136:M67,1F137:M68,1F138",
    ":M69,1F139:M6A,1F13A:M6B,1F13B:M6C,1F13C:M6D,1F13D:M6E,1F13E:M6F,1F13F:M70,1F140:M71,1F1",
    "41:M72,1F142:M73,1F143:M74,1F144:M75,1F145:M76,1F146:M77,1F147:M78,1F148:M79,1F149:M7A,1",
    "F14A:M68.76,1F14B:M6D.76,1F14C:M73.64,1F14D:M73.73,1F14E:M70.70.76,1F14F:M77.63,1F16A:M6",
    "D.63,1F16B:M6D.64,1F16C:M6D.72,1F190:M64.6A,1F200:M307B.304B,1F201:M30B3.30B3,1F202:M30B",
    "5,1F210:M624B,1F211:M5B57,1F212:M53CC,1F213:M30C7,1F214:M4E8C,1F215:M591A,1F216:M89E3,1F",
    "217:M5929,1F218:M4EA4,1F219:M6620,1F21A:M7121,1F21B:M6599,1F21C:M524D,1F21D:M5F8C,1F21E:",
    "M518D,1F21F:M65B0,1F220:M521D,1F221:M7D42,1F222:M751F,1F223:M8CA9,1F224:M58F0,1F225:M543",
    "9,1F226:M6F14,1F227:M6295,1F228:M6355,1F229:M4E00,1F22A:M4E09,1F22B:M904A,1F22C:M5DE6,1F",
    "22D:M4E2D,1F22E:M53F3,1F22F:M6307,1F230:M8D70,1F231:M6253,1F232:M7981,1F233:M7A7A,1F234:",
    "M5408,1F235:M6E80,1F236:M6709,1F237:M6708,1F238:M7533,1F239:M5272,1F23A:M55B6,1F23B:M914",
    "D,1F240:M3014.672C.3015,1F241:M3014.4E09.3015,1F242:M3014.4E8C.3015,1F243:M3014.5B89.301",
    "5,1F244:M3014.70B9.3015,1F245:M3014.6253.3015,1F246:M3014.76D7.3015,1F247:M3014.52DD.301",
    "5,1F248:M3014.6557.3015,1F250:M5F97,1F251:M53EF,1FBF0:M30,1FBF1:M31,1FBF2:M32,1FBF3:M33,",
    "1FBF4:M34,1FBF5:M35,1FBF6:M36,1FBF7:M37,1FBF8:M38,1FBF9:M39,1FFFE-1FFFF:X,2F800:M4E3D,2F",
    "801:M4E38,2F802:M4E41,2F803:M20122,2F804:M4F60,2F805:M4FAE,2F806:M4FBB,2F807:M5002,2F808",
    ":M507A,2F809:M5099,2F80A:M50E7,2F80B:M50CF,2F80C:M349E,2F80D:M2063A,2F80E:M514D,2F80F:M5",
    "154,2F810:M5164,2F811:M5177,2F812:M2051C,2F813:M34B9,2F814:M5167,2F815:M518D,2F816:M2054",
    "B,2F817:M5197,2F818:M51A4,2F819:M4ECC,2F81A:M51AC,2F81B:M51B5,2F81C:M291DF,2F81D:M51F5,2",
    "F81E:M5203,2F81F:M34DF,2F820:M523B,2F821:M5246,2F822:M5272,2F823:M5277,2F824:M3515,2F825",
    ":M52C7,2F826:M52C9,2F827:M52E4,2F828:M52FA,2F829:M5305,2F82A:M5306,2F82B:M5317,2F82C:M53",
    "49,2F82D:M5351,2F82E:M535A,2F82F:M5373,2F830:M537D,2F831-2F833:M537F,2F834:M20A2C,2F835:",
    "M7070,2F836:M53CA,2F837:M53DF,2F838:M20B63,2F839:M53EB,2F83A:M53F1,2F83B:M5406,2F83C:M54",
    "9E,2F83D:M5438,2F83E:M5448,2F83F:M5468,2F840:M54A2,2F841:M54F6,2F842:M5510,2F843:M5553,2",
    "F844:M5563,2F845-2F846:M5584,2F847:M5599,2F848:M55AB,2F849:M55B3,2F84A:M55C2,2F84B:M5716",
    ",2F84C:M5606,2F84D:M5717,2F84E:M5651,2F84F:M5674,2F850:M5207,2F851:M58EE,2F852:M57CE,2F8",
    "53:M57F4,2F854:M580D,2F855:M578B,2F856:M5832,2F857:M5831,2F858:M58AC,2F859:M214E4,2F85A:",
    "M58F2,2F85B:M58F7,2F85C:M5906,2F85D:M591A,2F85E:M5922,2F85F:M5962,2F860:M216A8,2F861:M21",
    "6EA,2F862:M59EC,2F863:M5A1B,2F864:M5A27,2F865:M59D8,2F866:M5A66,2F867:M36EE,2F868:M36FC,",
    "2F869:M5B08,2F86A-2F86B:M5B3E,2F86C:M219C8,2F86D:M5BC3,2F86E:M5BD8,2F86F:M5BE7,2F870:M5B",
    "F3,2F871:M21B18,2F872:M5BFF,2F873:M5C06,2F874:M5F53,2F875:M5C22,2F876:M3781,2F877:M5C60,",
    "2F878:M5C6E,2F879:M5CC0,2F87A:M5C8D,2F87B:M21DE4,2F87C:M5D43,2F87D:M21DE6,2F87E:M5D6E,2F",
    "87F:M5D6B,2F880:M5D7C,2F881:M5DE1,2F882:M5DE2,2F883:M382F,2F884:M5DFD,2F885:M5E28,2F886:",
    "M5E3D,2F887:M5E69,2F888:M3862,2F889:M22183,2F88A:M387C,2F88B:M5EB0,2F88C:M5EB3,2F88D:M5E",
    "B6,2F88E:M5ECA,2F88F:M2A392,2F890:M5EFE,2F891-2F892:M22331,2F893:M8201,2F894-2F895:M5F22",
    ",2F896:M38C7,2F897:M232B8,2F898:M261DA,2F899:M5F62,2F89A:M5F6B,2F89B:M38E3,2F89C:M5F9A,2",
    "F89D:M5FCD,2F89E:M5FD7,2F89F:M5FF9,2F8A0:M6081,2F8A1:M393A,2F8A2:M391C,2F8A3:M6094,2F8A4",
    ":M226D4,2F8A5:M60C7,2F8A6:M6148,2F8A7:M614C,2F8A8:M614E,2F8A9:M614C,2F8AA:M617A,2F8AB:M6",
    "18E,2F8AC:M61B2,2F8AD:M61A4,2F8AE:M61AF,2F8AF:M61DE,2F8B0:M61F2,2F8B1:M61F6,2F8B2:M6210,",
    "2F8B3:M621B,2F8B4:M625D,2F8B5:M62B1,2F8B6:M62D4,2F8B7:M6350,2F8B8:M22B0C,2F8B9:M633D,2F8",
    "BA:M62FC,2F8BB:M6368,2F8BC:M6383,2F8BD:M63E4,2F8BE:M22BF1,2F8BF:M6422,2F8C0:M63C5,2F8C1:",
    "M63A9,2F8C2:M3A2E,2F8C3:M6469,2F8C4:M647E,2F8C5:M649D,2F8C6:M6477,2F8C7:M3A6C,2F8C8:M654",
    "F,2F8C9:M656C,2F8CA:M2300A,2F8CB:M65E3,2F8CC:M66F8,2F8CD:M6649,2F8CE:M3B19,2F8CF:M6691,2",
    "F8D0:M3B08,2F8D1:M3AE4,2F8D2:M5192,2F8D3:M5195,2F8D4:M6700,2F8D5:M669C,2F8D6:M80AD,2F8D7",
    ":M43D9,2F8D8:M6717,2F8D9:M671B,2F8DA:M6721,2F8DB:M675E,2F8DC:M6753,2F8DD:M233C3,2F8DE:M3",
    "B49,2F8DF:M67FA,2F8E0:M6785,2F8E1:M6852,2F8E2:M6885,2F8E3:M2346D,2F8E4:M688E,2F8E5:M681F",
    ",2F8E6:M6914,2F8E7:M3B9D,2F8E8:M6942,2F8E9:M69A3,2F8EA:M69EA,2F8EB:M6AA8,2F8EC:M236A3,2F",
    "8ED:M6ADB,2F8EE:M3C18,2F8EF:M6B21,2F8F0:M238A7,2F8F1:M6B54,2F8F2:M3C4E,2F8F3:M6B72,2F8F4",
    ":M6B9F,2F8F5:M6BBA,2F8F6:M6BBB,2F8F7:M23A8D,2F8F8:M21D0B,2F8F9:M23AFA,2F8FA:M6C4E,2F8FB:",
    "M23CBC,2F8FC:M6CBF,2F8FD:M6CCD,2F8FE:M6C67,2F8FF:M6D16,2F900:M6D3E,2F901:M6D77,2F902:M6D",
    "41,2F903:M6D69,2F904:M6D78,2F905:M6D85,2F906:M23D1E,2F907:M6D34,2F908:M6E2F,2F909:M6E6E,",
    "2F90A:M3D33,2F90B:M6ECB,2F90C:M6EC7,2F90D:M23ED1,2F90E:M6DF9,2F90F:M6F6E,2F910:M23F5E,2F",
    "911:M23F8E,2F912:M6FC6,2F913:M7039,2F914:M701E,2F915:M701B,2F916:M3D96,2F917:M704A,2F918",
    ":M707D,2F919:M7077,2F91A:M70AD,2F91B:M20525,2F91C:M7145,2F91D:M24263,2F91E:M719C,2F91F:M",
    "243AB,2F920:M7228,2F921:M7235,2F922:M7250,2F923:M24608,2F924:M7280,2F925:M7295,2F926:M24",
    "735,2F927:M24814,2F928:M737A,2F929:M738B,2F92A:M3EAC,2F92B:M73A5,2F92C-2F92D:M3EB8,2F92E",
    ":M7447,2F92F:M745C,2F930:M7471,2F931:M7485,2F932:M74CA,2F933:M3F1B,2F934:M7524,2F935:M24",
    "C36,2F936:M753E,2F937:M24C92,2F938:M7570,2F939:M2219F,2F93A:M7610,2F93B:M24FA1,2F93C:M24",
    "FB8,2F93D:M25044,2F93E:M3FFC,2F93F:M4008,2F940:M76F4,2F941:M250F3,2F942:M250F2,2F943:M25",
    "119,2F944:M25133,2F945:M771E,2F946-2F947:M771F,2F948:M774A,2F949:M4039,2F94A:M778B,2F94B",
    ":M4046,2F94C:M4096,2F94D:M2541D,2F94E:M784E,2F94F:M788C,2F950:M78CC,2F951:M40E3,2F952:M2",
    "5626,2F953:M7956,2F954:M2569A,2F955:M256C5,2F956:M798F,2F957:M79EB,2F958:M412F,2F959:M7A",
    "40,2F95A:M7A4A,2F95B:M7A4F,2F95C:M2597C,2F95D-2F95E:M25AA7,2F95F:M7AEE,2F960:M4202,2F961",
    ":M25BAB,2F962:M7BC6,2F963:M7BC9,2F964:M4227,2F965:M25C80,2F966:M7CD2,2F967:M42A0,2F968:M",
    "7CE8,2F969:M7CE3,2F96A:M7D00,2F96B:M25F86,2F96C:M7D63,2F96D:M4301,2F96E:M7DC7,2F96F:M7E0",
    "2,2F970:M7E45,2F971:M4334,2F972:M26228,2F973:M26247,2F974:M4359,2F975:M262D9,2F976:M7F7A",
    ",2F977:M2633E,2F978:M7F95,2F979:M7FFA,2F97A:M8005,2F97B:M264DA,2F97C:M26523,2F97D:M8060,",
    "2F97E:M265A8,2F97F:M8070,2F980:M2335F,2F981:M43D5,2F982:M80B2,2F983:M8103,2F984:M440B,2F",
    "985:M813E,2F986:M5AB5,2F987:M267A7,2F988:M267B5,2F989:M23393,2F98A:M2339C,2F98B:M8201,2F",
    "98C:M8204,2F98D:M8F9E,2F98E:M446B,2F98F:M8291,2F990:M828B,2F991:M829D,2F992:M52B3,2F993:",
    "M82B1,2F994:M82B3,2F995:M82BD,2F996:M82E6,2F997:M26B3C,2F998:M82E5,2F999:M831D,2F99A:M83",
    "63,2F99B:M83AD,2F99C:M8323,2F99D:M83BD,2F99E:M83E7,2F99F:M8457,2F9A0:M8353,2F9A1:M83CA,2",
    "F9A2:M83CC,2F9A3:M83DC,2F9A4:M26C36,2F9A5:M26D6B,2F9A6:M26CD5,2F9A7:M452B,2F9A8:M84F1,2F",
    "9A9:M84F3,2F9AA:M8516,2F9AB:M273CA,2F9AC:M8564,2F9AD:M26F2C,2F9AE:M455D,2F9AF:M4561,2F9B",
    "0:M26FB1,2F9B1:M270D2,2F9B2:M456B,2F9B3:M8650,2F9B4:M865C,2F9B5:M8667,2F9B6:M8669,2F9B7:",
    "M86A9,2F9B8:M8688,2F9B9:M870E,2F9BA:M86E2,2F9BB:M8779,2F9BC:M8728,2F9BD:M876B,2F9BE:M878",
    "6,2F9BF:M45D7,2F9C0:M87E1,2F9C1:M8801,2F9C2:M45F9,2F9C3:M8860,2F9C4:M8863,2F9C5:M27667,2",
    "F9C6:M88D7,2F9C7:M88DE,2F9C8:M4635,2F9C9:M88FA,2F9CA:M34BB,2F9CB:M278AE,2F9CC:M27966,2F9",
    "CD:M46BE,2F9CE:M46C7,2F9CF:M8AA0,2F9D0:M8AED,2F9D1:M8B8A,2F9D2:M8C55,2F9D3:M27CA8,2F9D4:",
    "M8CAB,2F9D5:M8CC1,2F9D6:M8D1B,2F9D7:M8D77,2F9D8:M27F2F,2F9D9:M20804,2F9DA:M8DCB,2F9DB:M8",
    "DBC,2F9DC:M8DF0,2F9DD:M208DE,2F9DE:M8ED4,2F9DF:M8F38,2F9E0:M285D2,2F9E1:M285ED,2F9E2:M90",
    "94,2F9E3:M90F1,2F9E4:M9111,2F9E5:M2872E,2F9E6:M911B,2F9E7:M9238,2F9E8:M92D7,2F9E9:M92D8,",
    "2F9EA:M927C,2F9EB:M93F9,2F9EC:M9415,2F9ED:M28BFA,2F9EE:M958B,2F9EF:M4995,2F9F0:M95B7,2F9",
    "F1:M28D77,2F9F2:M49E6,2F9F3:M96C3,2F9F4:M5DB2,2F9F5:M9723,2F9F6:M29145,2F9F7:M2921A,2F9F",
    "8:M4A6E,2F9F9:M4A76,2F9FA:M97E0,2F9FB:M2940A,2F9FC:M4AB2,2F9FD:M29496,2F9FE-2F9FF:M980B,",
    "2FA00:M9829,2FA01:M295B6,2FA02:M98E2,2FA03:M4B33,2FA04:M9929,2FA05:M99A7,2FA06:M99C2,2FA",
    "07:M99FE,2FA08:M4BCE,2FA09:M29B30,2FA0A:M9B12,2FA0B:M9C40,2FA0C:M9CFD,2FA0D:M4CCE,2FA0E:",
    "M4CED,2FA0F:M9D67,2FA10:M2A0CE,2FA11:M4CF8,2FA12:M2A105,2FA13:M2A20E,2FA14:M2A291,2FA15:",
    "M9EBB,2FA16:M4D56,2FA17:M9EF9,2FA18:M9EFE,2FA19:M9F05,2FA1A:M9F0F,2FA1B:M9F16,2FA1C:M9F3",
    "B,2FA1D:M2A600,2FFFE-2FFFF:X,3FFFE-3FFFF:X,4FFFE-4FFFF:X,5FFFE-5FFFF:X,6FFFE-6FFFF:X,7FF",
    "FE-7FFFF:X,8FFFE-8FFFF:X,9FFFE-9FFFF:X,AFFFE-AFFFF:X,BFFFE-BFFFF:X,CFFFE-CFFFF:X,DFFFE-D",
    "FFFF:X,E0001:X,E0020-E007F:X,E0100-E01EF:I,EFFFE-10FFFF:X"]

/-- The code points that are not valid, with their status. -/
def idnaTable : RangeTable IdnaStatus := RangeTable.ofText IdnaStatus.ofTag idnaText

/-- The status of a code point. -/
def idnaStatus (n : Nat) : IdnaStatus := (idnaTable.find? n).getD .valid

end Unicode

end HomePanel
