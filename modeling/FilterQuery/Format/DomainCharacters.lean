/-!
# Characters of domain names

A domain name may be written in any script.  Before it is looked up, its
characters are mapped: letters to lower case, compatible forms to plain ones,
and some characters to nothing.

The tables hold what of that mapping decides whether a name is valid: which
characters are refused, which are mapped at all, and what is mapped to a text
with ASCII characters in it, since those are checked again.  A character that is
mapped to a text without ASCII characters is as valid as that text.  Further
tables hold the properties of characters that joiners and the direction of
writing depend on.
-/

namespace FilterQuery.Format.Domain

/-- The code points beyond ASCII that no domain name holds. -/
def disallowedRanges : List (Nat × Nat) :=
  [(0x80, 0x9F), (0x378, 0x379), (0x380, 0x383), (0x38B, 0x38B),
    (0x38D, 0x38D), (0x3A2, 0x3A2), (0x530, 0x530), (0x557, 0x558),
    (0x58B, 0x58C), (0x590, 0x590), (0x5C8, 0x5CF), (0x5EB, 0x5EE),
    (0x5F5, 0x605), (0x61C, 0x61C), (0x6DD, 0x6DD), (0x70E, 0x70F),
    (0x74B, 0x74C), (0x7B2, 0x7BF), (0x7FB, 0x7FC), (0x82E, 0x82F),
    (0x83F, 0x83F), (0x85C, 0x85D), (0x85F, 0x85F), (0x86B, 0x86F),
    (0x890, 0x896), (0x8E2, 0x8E2), (0x984, 0x984), (0x98D, 0x98E),
    (0x991, 0x992), (0x9A9, 0x9A9), (0x9B1, 0x9B1), (0x9B3, 0x9B5),
    (0x9BA, 0x9BB), (0x9C5, 0x9C6), (0x9C9, 0x9CA), (0x9CF, 0x9D6),
    (0x9D8, 0x9DB), (0x9DE, 0x9DE), (0x9E4, 0x9E5), (0x9FF, 0xA00),
    (0xA04, 0xA04), (0xA0B, 0xA0E), (0xA11, 0xA12), (0xA29, 0xA29),
    (0xA31, 0xA31), (0xA34, 0xA34), (0xA37, 0xA37), (0xA3A, 0xA3B),
    (0xA3D, 0xA3D), (0xA43, 0xA46), (0xA49, 0xA4A), (0xA4E, 0xA50),
    (0xA52, 0xA58), (0xA5D, 0xA5D), (0xA5F, 0xA65), (0xA77, 0xA80),
    (0xA84, 0xA84), (0xA8E, 0xA8E), (0xA92, 0xA92), (0xAA9, 0xAA9),
    (0xAB1, 0xAB1), (0xAB4, 0xAB4), (0xABA, 0xABB), (0xAC6, 0xAC6),
    (0xACA, 0xACA), (0xACE, 0xACF), (0xAD1, 0xADF), (0xAE4, 0xAE5),
    (0xAF2, 0xAF8), (0xB00, 0xB00), (0xB04, 0xB04), (0xB0D, 0xB0E),
    (0xB11, 0xB12), (0xB29, 0xB29), (0xB31, 0xB31), (0xB34, 0xB34),
    (0xB3A, 0xB3B), (0xB45, 0xB46), (0xB49, 0xB4A), (0xB4E, 0xB54),
    (0xB58, 0xB5B), (0xB5E, 0xB5E), (0xB64, 0xB65), (0xB78, 0xB81),
    (0xB84, 0xB84), (0xB8B, 0xB8D), (0xB91, 0xB91), (0xB96, 0xB98),
    (0xB9B, 0xB9B), (0xB9D, 0xB9D), (0xBA0, 0xBA2), (0xBA5, 0xBA7),
    (0xBAB, 0xBAD), (0xBBA, 0xBBD), (0xBC3, 0xBC5), (0xBC9, 0xBC9),
    (0xBCE, 0xBCF), (0xBD1, 0xBD6), (0xBD8, 0xBE5), (0xBFB, 0xBFF),
    (0xC0D, 0xC0D), (0xC11, 0xC11), (0xC29, 0xC29), (0xC3A, 0xC3B),
    (0xC45, 0xC45), (0xC49, 0xC49), (0xC4E, 0xC54), (0xC57, 0xC57),
    (0xC5B, 0xC5B), (0xC5E, 0xC5F), (0xC64, 0xC65), (0xC70, 0xC76),
    (0xC8D, 0xC8D), (0xC91, 0xC91), (0xCA9, 0xCA9), (0xCB4, 0xCB4),
    (0xCBA, 0xCBB), (0xCC5, 0xCC5), (0xCC9, 0xCC9), (0xCCE, 0xCD4),
    (0xCD7, 0xCDB), (0xCDF, 0xCDF), (0xCE4, 0xCE5), (0xCF0, 0xCF0),
    (0xCF4, 0xCFF), (0xD0D, 0xD0D), (0xD11, 0xD11), (0xD45, 0xD45),
    (0xD49, 0xD49), (0xD50, 0xD53), (0xD64, 0xD65), (0xD80, 0xD80),
    (0xD84, 0xD84), (0xD97, 0xD99), (0xDB2, 0xDB2), (0xDBC, 0xDBC),
    (0xDBE, 0xDBF), (0xDC7, 0xDC9), (0xDCB, 0xDCE), (0xDD5, 0xDD5),
    (0xDD7, 0xDD7), (0xDE0, 0xDE5), (0xDF0, 0xDF1), (0xDF5, 0xE00),
    (0xE3B, 0xE3E), (0xE5C, 0xE80), (0xE83, 0xE83), (0xE85, 0xE85),
    (0xE8B, 0xE8B), (0xEA4, 0xEA4), (0xEA6, 0xEA6), (0xEBE, 0xEBF),
    (0xEC5, 0xEC5), (0xEC7, 0xEC7), (0xECF, 0xECF), (0xEDA, 0xEDB),
    (0xEE0, 0xEFF), (0xF48, 0xF48), (0xF6D, 0xF70), (0xF98, 0xF98),
    (0xFBD, 0xFBD), (0xFCD, 0xFCD), (0xFDB, 0xFFF), (0x10C6, 0x10C6),
    (0x10C8, 0x10CC), (0x10CE, 0x10CF), (0x1249, 0x1249), (0x124E, 0x124F),
    (0x1257, 0x1257), (0x1259, 0x1259), (0x125E, 0x125F), (0x1289, 0x1289),
    (0x128E, 0x128F), (0x12B1, 0x12B1), (0x12B6, 0x12B7), (0x12BF, 0x12BF),
    (0x12C1, 0x12C1), (0x12C6, 0x12C7), (0x12D7, 0x12D7), (0x1311, 0x1311),
    (0x1316, 0x1317), (0x135B, 0x135C), (0x137D, 0x137F), (0x139A, 0x139F),
    (0x13F6, 0x13F7), (0x13FE, 0x13FF), (0x1680, 0x1680), (0x169D, 0x169F),
    (0x16F9, 0x16FF), (0x1716, 0x171E), (0x1737, 0x173F), (0x1754, 0x175F),
    (0x176D, 0x176D), (0x1771, 0x1771), (0x1774, 0x177F), (0x17DE, 0x17DF),
    (0x17EA, 0x17EF), (0x17FA, 0x17FF), (0x181A, 0x181F), (0x1879, 0x187F),
    (0x18AB, 0x18AF), (0x18F6, 0x18FF), (0x191F, 0x191F), (0x192C, 0x192F),
    (0x193C, 0x193F), (0x1941, 0x1943), (0x196E, 0x196F), (0x1975, 0x197F),
    (0x19AC, 0x19AF), (0x19CA, 0x19CF), (0x19DB, 0x19DD), (0x1A1C, 0x1A1D),
    (0x1A5F, 0x1A5F), (0x1A7D, 0x1A7E), (0x1A8A, 0x1A8F), (0x1A9A, 0x1A9F),
    (0x1AAE, 0x1AAF), (0x1ADE, 0x1ADF), (0x1AEC, 0x1AFF), (0x1B4D, 0x1B4D),
    (0x1BF4, 0x1BFB), (0x1C38, 0x1C3A), (0x1C4A, 0x1C4C), (0x1C8B, 0x1C8F),
    (0x1CBB, 0x1CBC), (0x1CC8, 0x1CCF), (0x1CFB, 0x1CFF), (0x1F16, 0x1F17),
    (0x1F1E, 0x1F1F), (0x1F46, 0x1F47), (0x1F4E, 0x1F4F), (0x1F58, 0x1F58),
    (0x1F5A, 0x1F5A), (0x1F5C, 0x1F5C), (0x1F5E, 0x1F5E), (0x1F7E, 0x1F7F),
    (0x1FB5, 0x1FB5), (0x1FC5, 0x1FC5), (0x1FD4, 0x1FD5), (0x1FDC, 0x1FDC),
    (0x1FF0, 0x1FF1), (0x1FF5, 0x1FF5), (0x1FFF, 0x1FFF), (0x200E, 0x200F),
    (0x2024, 0x2026), (0x2028, 0x202E), (0x2065, 0x2069), (0x2072, 0x2073),
    (0x208F, 0x208F), (0x209D, 0x209F), (0x20C2, 0x20CF), (0x20F1, 0x20FF),
    (0x218C, 0x218F), (0x242A, 0x243F), (0x244B, 0x245F), (0x2488, 0x249B),
    (0x2B74, 0x2B75), (0x2CF4, 0x2CF8), (0x2D26, 0x2D26), (0x2D28, 0x2D2C),
    (0x2D2E, 0x2D2F), (0x2D68, 0x2D6E), (0x2D71, 0x2D7E), (0x2D97, 0x2D9F),
    (0x2DA7, 0x2DA7), (0x2DAF, 0x2DAF), (0x2DB7, 0x2DB7), (0x2DBF, 0x2DBF),
    (0x2DC7, 0x2DC7), (0x2DCF, 0x2DCF), (0x2DD7, 0x2DD7), (0x2DDF, 0x2DDF),
    (0x2E5E, 0x2E7F), (0x2E9A, 0x2E9A), (0x2EF4, 0x2EFF), (0x2FD6, 0x2FFF),
    (0x3040, 0x3040), (0x3097, 0x3098), (0x3100, 0x3104), (0x3130, 0x3130),
    (0x318F, 0x318F), (0x31E6, 0x31EF), (0x321F, 0x321F), (0x33C2, 0x33C2),
    (0x33C7, 0x33C7), (0x33D8, 0x33D8), (0xA48D, 0xA48F), (0xA4C7, 0xA4CF),
    (0xA62C, 0xA63F), (0xA6F8, 0xA6FF), (0xA7DD, 0xA7F0), (0xA82D, 0xA82F),
    (0xA83A, 0xA83F), (0xA878, 0xA87F), (0xA8C6, 0xA8CD), (0xA8DA, 0xA8DF),
    (0xA954, 0xA95E), (0xA97D, 0xA97F), (0xA9CE, 0xA9CE), (0xA9DA, 0xA9DD),
    (0xA9FF, 0xA9FF), (0xAA37, 0xAA3F), (0xAA4E, 0xAA4F), (0xAA5A, 0xAA5B),
    (0xAAC3, 0xAADA), (0xAAF7, 0xAB00), (0xAB07, 0xAB08), (0xAB0F, 0xAB10),
    (0xAB17, 0xAB1F), (0xAB27, 0xAB27), (0xAB2F, 0xAB2F), (0xAB6C, 0xAB6F),
    (0xABEE, 0xABEF), (0xABFA, 0xABFF), (0xD7A4, 0xD7AF), (0xD7C7, 0xD7CA),
    (0xD7FC, 0xF8FF), (0xFA6E, 0xFA6F), (0xFADA, 0xFAFF), (0xFB07, 0xFB12),
    (0xFB18, 0xFB1C), (0xFB37, 0xFB37), (0xFB3D, 0xFB3D), (0xFB3F, 0xFB3F),
    (0xFB42, 0xFB42), (0xFB45, 0xFB45), (0xFDD0, 0xFDEF), (0xFE12, 0xFE12),
    (0xFE19, 0xFE1F), (0xFE30, 0xFE30), (0xFE52, 0xFE53), (0xFE67, 0xFE67),
    (0xFE6C, 0xFE6F), (0xFE75, 0xFE75), (0xFEFD, 0xFEFE), (0xFF00, 0xFF00),
    (0xFFBF, 0xFFC1), (0xFFC8, 0xFFC9), (0xFFD0, 0xFFD1), (0xFFD8, 0xFFD9),
    (0xFFDD, 0xFFDF), (0xFFE7, 0xFFE7), (0xFFEF, 0xFFFF), (0x1000C, 0x1000C),
    (0x10027, 0x10027), (0x1003B, 0x1003B), (0x1003E, 0x1003E),
    (0x1004E, 0x1004F), (0x1005E, 0x1007F), (0x100FB, 0x100FF),
    (0x10103, 0x10106), (0x10134, 0x10136), (0x1018F, 0x1018F),
    (0x1019D, 0x1019F), (0x101A1, 0x101CF), (0x101FE, 0x1027F),
    (0x1029D, 0x1029F), (0x102D1, 0x102DF), (0x102FC, 0x102FF),
    (0x10324, 0x1032C), (0x1034B, 0x1034F), (0x1037B, 0x1037F),
    (0x1039E, 0x1039E), (0x103C4, 0x103C7), (0x103D6, 0x103FF),
    (0x1049E, 0x1049F), (0x104AA, 0x104AF), (0x104D4, 0x104D7),
    (0x104FC, 0x104FF), (0x10528, 0x1052F), (0x10564, 0x1056E),
    (0x1057B, 0x1057B), (0x1058B, 0x1058B), (0x10593, 0x10593),
    (0x10596, 0x10596), (0x105A2, 0x105A2), (0x105B2, 0x105B2),
    (0x105BA, 0x105BA), (0x105BD, 0x105BF), (0x105F4, 0x105FF),
    (0x10737, 0x1073F), (0x10756, 0x1075F), (0x10768, 0x1077F),
    (0x10786, 0x10786), (0x107B1, 0x107B1), (0x107BB, 0x107FF),
    (0x10806, 0x10807), (0x10809, 0x10809), (0x10836, 0x10836),
    (0x10839, 0x1083B), (0x1083D, 0x1083E), (0x10856, 0x10856),
    (0x1089F, 0x108A6), (0x108B0, 0x108DF), (0x108F3, 0x108F3),
    (0x108F6, 0x108FA), (0x1091C, 0x1091E), (0x1093A, 0x1093E),
    (0x1095A, 0x1097F), (0x109B8, 0x109BB), (0x109D0, 0x109D1),
    (0x10A04, 0x10A04), (0x10A07, 0x10A0B), (0x10A14, 0x10A14),
    (0x10A18, 0x10A18), (0x10A36, 0x10A37), (0x10A3B, 0x10A3E),
    (0x10A49, 0x10A4F), (0x10A59, 0x10A5F), (0x10AA0, 0x10ABF),
    (0x10AE7, 0x10AEA), (0x10AF7, 0x10AFF), (0x10B36, 0x10B38),
    (0x10B56, 0x10B57), (0x10B73, 0x10B77), (0x10B92, 0x10B98),
    (0x10B9D, 0x10BA8), (0x10BB0, 0x10BFF), (0x10C49, 0x10C7F),
    (0x10CB3, 0x10CBF), (0x10CF3, 0x10CF9), (0x10D28, 0x10D2F),
    (0x10D3A, 0x10D3F), (0x10D66, 0x10D68), (0x10D86, 0x10D8D),
    (0x10D90, 0x10E5F), (0x10E7F, 0x10E7F), (0x10EAA, 0x10EAA),
    (0x10EAE, 0x10EAF), (0x10EB2, 0x10EC1), (0x10EC8, 0x10ECF),
    (0x10ED9, 0x10EF9), (0x10F28, 0x10F2F), (0x10F5A, 0x10F6F),
    (0x10F8A, 0x10FAF), (0x10FCC, 0x10FDF), (0x10FF7, 0x10FFF),
    (0x1104E, 0x11051), (0x11076, 0x1107E), (0x110BD, 0x110BD),
    (0x110C3, 0x110CF), (0x110E9, 0x110EF), (0x110FA, 0x110FF),
    (0x11135, 0x11135), (0x11148, 0x1114F), (0x11177, 0x1117F),
    (0x111E0, 0x111E0), (0x111F5, 0x111FF), (0x11212, 0x11212),
    (0x11242, 0x1127F), (0x11287, 0x11287), (0x11289, 0x11289),
    (0x1128E, 0x1128E), (0x1129E, 0x1129E), (0x112AA, 0x112AF),
    (0x112EB, 0x112EF), (0x112FA, 0x112FF), (0x11304, 0x11304),
    (0x1130D, 0x1130E), (0x11311, 0x11312), (0x11329, 0x11329),
    (0x11331, 0x11331), (0x11334, 0x11334), (0x1133A, 0x1133A),
    (0x11345, 0x11346), (0x11349, 0x1134A), (0x1134E, 0x1134F),
    (0x11351, 0x11356), (0x11358, 0x1135C), (0x11364, 0x11365),
    (0x1136D, 0x1136F), (0x11375, 0x1137F), (0x1138A, 0x1138A),
    (0x1138C, 0x1138D), (0x1138F, 0x1138F), (0x113B6, 0x113B6),
    (0x113C1, 0x113C1), (0x113C3, 0x113C4), (0x113C6, 0x113C6),
    (0x113CB, 0x113CB), (0x113D6, 0x113D6), (0x113D9, 0x113E0),
    (0x113E3, 0x113FF), (0x1145C, 0x1145C), (0x11462, 0x1147F),
    (0x114C8, 0x114CF), (0x114DA, 0x1157F), (0x115B6, 0x115B7),
    (0x115DE, 0x115FF), (0x11645, 0x1164F), (0x1165A, 0x1165F),
    (0x1166D, 0x1167F), (0x116BA, 0x116BF), (0x116CA, 0x116CF),
    (0x116E4, 0x116FF), (0x1171B, 0x1171C), (0x1172C, 0x1172F),
    (0x11747, 0x117FF), (0x1183C, 0x1189F), (0x118F3, 0x118FE),
    (0x11907, 0x11908), (0x1190A, 0x1190B), (0x11914, 0x11914),
    (0x11917, 0x11917), (0x11936, 0x11936), (0x11939, 0x1193A),
    (0x11947, 0x1194F), (0x1195A, 0x1199F), (0x119A8, 0x119A9),
    (0x119D8, 0x119D9), (0x119E5, 0x119FF), (0x11A48, 0x11A4F),
    (0x11AA3, 0x11AAF), (0x11AF9, 0x11AFF), (0x11B0A, 0x11B5F),
    (0x11B68, 0x11BBF), (0x11BE2, 0x11BEF), (0x11BFA, 0x11BFF),
    (0x11C09, 0x11C09), (0x11C37, 0x11C37), (0x11C46, 0x11C4F),
    (0x11C6D, 0x11C6F), (0x11C90, 0x11C91), (0x11CA8, 0x11CA8),
    (0x11CB7, 0x11CFF), (0x11D07, 0x11D07), (0x11D0A, 0x11D0A),
    (0x11D37, 0x11D39), (0x11D3B, 0x11D3B), (0x11D3E, 0x11D3E),
    (0x11D48, 0x11D4F), (0x11D5A, 0x11D5F), (0x11D66, 0x11D66),
    (0x11D69, 0x11D69), (0x11D8F, 0x11D8F), (0x11D92, 0x11D92),
    (0x11D99, 0x11D9F), (0x11DAA, 0x11DAF), (0x11DDC, 0x11DDF),
    (0x11DEA, 0x11EDF), (0x11EF9, 0x11EFF), (0x11F11, 0x11F11),
    (0x11F3B, 0x11F3D), (0x11F5B, 0x11FAF), (0x11FB1, 0x11FBF),
    (0x11FF2, 0x11FFE), (0x1239A, 0x123FF), (0x1246F, 0x1246F),
    (0x12475, 0x1247F), (0x12544, 0x12F8F), (0x12FF3, 0x12FFF),
    (0x13430, 0x1343F), (0x13456, 0x1345F), (0x143FB, 0x143FF),
    (0x14647, 0x160FF), (0x1613A, 0x167FF), (0x16A39, 0x16A3F),
    (0x16A5F, 0x16A5F), (0x16A6A, 0x16A6D), (0x16ABF, 0x16ABF),
    (0x16ACA, 0x16ACF), (0x16AEE, 0x16AEF), (0x16AF6, 0x16AFF),
    (0x16B46, 0x16B4F), (0x16B5A, 0x16B5A), (0x16B62, 0x16B62),
    (0x16B78, 0x16B7C), (0x16B90, 0x16D3F), (0x16D7A, 0x16E3F),
    (0x16E9B, 0x16E9F), (0x16EB9, 0x16EBA), (0x16ED4, 0x16EFF),
    (0x16F4B, 0x16F4E), (0x16F88, 0x16F8E), (0x16FA0, 0x16FDF),
    (0x16FE5, 0x16FEF), (0x16FF7, 0x16FFF), (0x18CD6, 0x18CFE),
    (0x18D1F, 0x18D7F), (0x18DF3, 0x1AFEF), (0x1AFF4, 0x1AFF4),
    (0x1AFFC, 0x1AFFC), (0x1AFFF, 0x1AFFF), (0x1B123, 0x1B131),
    (0x1B133, 0x1B14F), (0x1B153, 0x1B154), (0x1B156, 0x1B163),
    (0x1B168, 0x1B16F), (0x1B2FC, 0x1BBFF), (0x1BC6B, 0x1BC6F),
    (0x1BC7D, 0x1BC7F), (0x1BC89, 0x1BC8F), (0x1BC9A, 0x1BC9B),
    (0x1BCA4, 0x1CBFF), (0x1CCFD, 0x1CCFF), (0x1CEB4, 0x1CEB9),
    (0x1CED1, 0x1CEDF), (0x1CEF1, 0x1CEFF), (0x1CF2E, 0x1CF2F),
    (0x1CF47, 0x1CF4F), (0x1CFC4, 0x1CFFF), (0x1D0F6, 0x1D0FF),
    (0x1D127, 0x1D128), (0x1D1EB, 0x1D1FF), (0x1D246, 0x1D2BF),
    (0x1D2D4, 0x1D2DF), (0x1D2F4, 0x1D2FF), (0x1D357, 0x1D35F),
    (0x1D379, 0x1D3FF), (0x1D455, 0x1D455), (0x1D49D, 0x1D49D),
    (0x1D4A0, 0x1D4A1), (0x1D4A3, 0x1D4A4), (0x1D4A7, 0x1D4A8),
    (0x1D4AD, 0x1D4AD), (0x1D4BA, 0x1D4BA), (0x1D4BC, 0x1D4BC),
    (0x1D4C4, 0x1D4C4), (0x1D506, 0x1D506), (0x1D50B, 0x1D50C),
    (0x1D515, 0x1D515), (0x1D51D, 0x1D51D), (0x1D53A, 0x1D53A),
    (0x1D53F, 0x1D53F), (0x1D545, 0x1D545), (0x1D547, 0x1D549),
    (0x1D551, 0x1D551), (0x1D6A6, 0x1D6A7), (0x1D7CC, 0x1D7CD),
    (0x1DA8C, 0x1DA9A), (0x1DAA0, 0x1DAA0), (0x1DAB0, 0x1DEFF),
    (0x1DF1F, 0x1DF24), (0x1DF2B, 0x1DFFF), (0x1E007, 0x1E007),
    (0x1E019, 0x1E01A), (0x1E022, 0x1E022), (0x1E025, 0x1E025),
    (0x1E02B, 0x1E02F), (0x1E06E, 0x1E08E), (0x1E090, 0x1E0FF),
    (0x1E12D, 0x1E12F), (0x1E13E, 0x1E13F), (0x1E14A, 0x1E14D),
    (0x1E150, 0x1E28F), (0x1E2AF, 0x1E2BF), (0x1E2FA, 0x1E2FE),
    (0x1E300, 0x1E4CF), (0x1E4FA, 0x1E5CF), (0x1E5FB, 0x1E5FE),
    (0x1E600, 0x1E6BF), (0x1E6DF, 0x1E6DF), (0x1E6F6, 0x1E6FD),
    (0x1E700, 0x1E7DF), (0x1E7E7, 0x1E7E7), (0x1E7EC, 0x1E7EC),
    (0x1E7EF, 0x1E7EF), (0x1E7FF, 0x1E7FF), (0x1E8C5, 0x1E8C6),
    (0x1E8D7, 0x1E8FF), (0x1E94C, 0x1E94F), (0x1E95A, 0x1E95D),
    (0x1E960, 0x1EC70), (0x1ECB5, 0x1ED00), (0x1ED3E, 0x1EDFF),
    (0x1EE04, 0x1EE04), (0x1EE20, 0x1EE20), (0x1EE23, 0x1EE23),
    (0x1EE25, 0x1EE26), (0x1EE28, 0x1EE28), (0x1EE33, 0x1EE33),
    (0x1EE38, 0x1EE38), (0x1EE3A, 0x1EE3A), (0x1EE3C, 0x1EE41),
    (0x1EE43, 0x1EE46), (0x1EE48, 0x1EE48), (0x1EE4A, 0x1EE4A),
    (0x1EE4C, 0x1EE4C), (0x1EE50, 0x1EE50), (0x1EE53, 0x1EE53),
    (0x1EE55, 0x1EE56), (0x1EE58, 0x1EE58), (0x1EE5A, 0x1EE5A),
    (0x1EE5C, 0x1EE5C), (0x1EE5E, 0x1EE5E), (0x1EE60, 0x1EE60),
    (0x1EE63, 0x1EE63), (0x1EE65, 0x1EE66), (0x1EE6B, 0x1EE6B),
    (0x1EE73, 0x1EE73), (0x1EE78, 0x1EE78), (0x1EE7D, 0x1EE7D),
    (0x1EE7F, 0x1EE7F), (0x1EE8A, 0x1EE8A), (0x1EE9C, 0x1EEA0),
    (0x1EEA4, 0x1EEA4), (0x1EEAA, 0x1EEAA), (0x1EEBC, 0x1EEEF),
    (0x1EEF2, 0x1EFFF), (0x1F02C, 0x1F02F), (0x1F094, 0x1F09F),
    (0x1F0AF, 0x1F0B0), (0x1F0C0, 0x1F0C0), (0x1F0D0, 0x1F0D0),
    (0x1F0F6, 0x1F100), (0x1F1AE, 0x1F1E5), (0x1F203, 0x1F20F),
    (0x1F23C, 0x1F23F), (0x1F249, 0x1F24F), (0x1F252, 0x1F25F),
    (0x1F266, 0x1F2FF), (0x1F6D9, 0x1F6DB), (0x1F6ED, 0x1F6EF),
    (0x1F6FD, 0x1F6FF), (0x1F7DA, 0x1F7DF), (0x1F7EC, 0x1F7EF),
    (0x1F7F1, 0x1F7FF), (0x1F80C, 0x1F80F), (0x1F848, 0x1F84F),
    (0x1F85A, 0x1F85F), (0x1F888, 0x1F88F), (0x1F8AE, 0x1F8AF),
    (0x1F8BC, 0x1F8BF), (0x1F8C2, 0x1F8CF), (0x1F8D9, 0x1F8FF),
    (0x1FA58, 0x1FA5F), (0x1FA6E, 0x1FA6F), (0x1FA7D, 0x1FA7F),
    (0x1FA8B, 0x1FA8D), (0x1FAC7, 0x1FAC7), (0x1FAC9, 0x1FACC),
    (0x1FADD, 0x1FADE), (0x1FAEB, 0x1FAEE), (0x1FAF9, 0x1FAFF),
    (0x1FB93, 0x1FB93), (0x1FBFB, 0x1FFFF), (0x2A6E0, 0x2A6FF),
    (0x2B81E, 0x2B81F), (0x2CEAE, 0x2CEAF), (0x2EBE1, 0x2EBEF),
    (0x2EE5E, 0x2F7FF), (0x2FA1E, 0x2FFFF), (0x3134B, 0x3134F),
    (0x3347A, 0xE00FF), (0xE01F0, 0x10FFFF)]

/-- The code points that are mapped to another text or to nothing. -/
def mappedRanges : List (Nat × Nat) :=
  [(0x41, 0x5A), (0xA0, 0xA0), (0xA8, 0xA8), (0xAA, 0xAA), (0xAD, 0xAD),
    (0xAF, 0xAF), (0xB2, 0xB5), (0xB8, 0xBA), (0xBC, 0xBE), (0xC0, 0xD6),
    (0xD8, 0xDE), (0x100, 0x100), (0x102, 0x102), (0x104, 0x104),
    (0x106, 0x106), (0x108, 0x108), (0x10A, 0x10A), (0x10C, 0x10C),
    (0x10E, 0x10E), (0x110, 0x110), (0x112, 0x112), (0x114, 0x114),
    (0x116, 0x116), (0x118, 0x118), (0x11A, 0x11A), (0x11C, 0x11C),
    (0x11E, 0x11E), (0x120, 0x120), (0x122, 0x122), (0x124, 0x124),
    (0x126, 0x126), (0x128, 0x128), (0x12A, 0x12A), (0x12C, 0x12C),
    (0x12E, 0x12E), (0x130, 0x130), (0x132, 0x134), (0x136, 0x136),
    (0x139, 0x139), (0x13B, 0x13B), (0x13D, 0x13D), (0x13F, 0x141),
    (0x143, 0x143), (0x145, 0x145), (0x147, 0x147), (0x149, 0x14A),
    (0x14C, 0x14C), (0x14E, 0x14E), (0x150, 0x150), (0x152, 0x152),
    (0x154, 0x154), (0x156, 0x156), (0x158, 0x158), (0x15A, 0x15A),
    (0x15C, 0x15C), (0x15E, 0x15E), (0x160, 0x160), (0x162, 0x162),
    (0x164, 0x164), (0x166, 0x166), (0x168, 0x168), (0x16A, 0x16A),
    (0x16C, 0x16C), (0x16E, 0x16E), (0x170, 0x170), (0x172, 0x172),
    (0x174, 0x174), (0x176, 0x176), (0x178, 0x179), (0x17B, 0x17B),
    (0x17D, 0x17D), (0x17F, 0x17F), (0x181, 0x182), (0x184, 0x184),
    (0x186, 0x187), (0x189, 0x18B), (0x18E, 0x191), (0x193, 0x194),
    (0x196, 0x198), (0x19C, 0x19D), (0x19F, 0x1A0), (0x1A2, 0x1A2),
    (0x1A4, 0x1A4), (0x1A6, 0x1A7), (0x1A9, 0x1A9), (0x1AC, 0x1AC),
    (0x1AE, 0x1AF), (0x1B1, 0x1B3), (0x1B5, 0x1B5), (0x1B7, 0x1B8),
    (0x1BC, 0x1BC), (0x1C4, 0x1CD), (0x1CF, 0x1CF), (0x1D1, 0x1D1),
    (0x1D3, 0x1D3), (0x1D5, 0x1D5), (0x1D7, 0x1D7), (0x1D9, 0x1D9),
    (0x1DB, 0x1DB), (0x1DE, 0x1DE), (0x1E0, 0x1E0), (0x1E2, 0x1E2),
    (0x1E4, 0x1E4), (0x1E6, 0x1E6), (0x1E8, 0x1E8), (0x1EA, 0x1EA),
    (0x1EC, 0x1EC), (0x1EE, 0x1EE), (0x1F1, 0x1F4), (0x1F6, 0x1F8),
    (0x1FA, 0x1FA), (0x1FC, 0x1FC), (0x1FE, 0x1FE), (0x200, 0x200),
    (0x202, 0x202), (0x204, 0x204), (0x206, 0x206), (0x208, 0x208),
    (0x20A, 0x20A), (0x20C, 0x20C), (0x20E, 0x20E), (0x210, 0x210),
    (0x212, 0x212), (0x214, 0x214), (0x216, 0x216), (0x218, 0x218),
    (0x21A, 0x21A), (0x21C, 0x21C), (0x21E, 0x21E), (0x220, 0x220),
    (0x222, 0x222), (0x224, 0x224), (0x226, 0x226), (0x228, 0x228),
    (0x22A, 0x22A), (0x22C, 0x22C), (0x22E, 0x22E), (0x230, 0x230),
    (0x232, 0x232), (0x23A, 0x23B), (0x23D, 0x23E), (0x241, 0x241),
    (0x243, 0x246), (0x248, 0x248), (0x24A, 0x24A), (0x24C, 0x24C),
    (0x24E, 0x24E), (0x2B0, 0x2B8), (0x2D8, 0x2DD), (0x2E0, 0x2E4),
    (0x340, 0x341), (0x343, 0x345), (0x34F, 0x34F), (0x370, 0x370),
    (0x372, 0x372), (0x374, 0x374), (0x376, 0x376), (0x37A, 0x37A),
    (0x37E, 0x37F), (0x384, 0x38A), (0x38C, 0x38C), (0x38E, 0x38F),
    (0x391, 0x3A1), (0x3A3, 0x3AB), (0x3CF, 0x3D6), (0x3D8, 0x3D8),
    (0x3DA, 0x3DA), (0x3DC, 0x3DC), (0x3DE, 0x3DE), (0x3E0, 0x3E0),
    (0x3E2, 0x3E2), (0x3E4, 0x3E4), (0x3E6, 0x3E6), (0x3E8, 0x3E8),
    (0x3EA, 0x3EA), (0x3EC, 0x3EC), (0x3EE, 0x3EE), (0x3F0, 0x3F2),
    (0x3F4, 0x3F5), (0x3F7, 0x3F7), (0x3F9, 0x3FA), (0x3FD, 0x42F),
    (0x460, 0x460), (0x462, 0x462), (0x464, 0x464), (0x466, 0x466),
    (0x468, 0x468), (0x46A, 0x46A), (0x46C, 0x46C), (0x46E, 0x46E),
    (0x470, 0x470), (0x472, 0x472), (0x474, 0x474), (0x476, 0x476),
    (0x478, 0x478), (0x47A, 0x47A), (0x47C, 0x47C), (0x47E, 0x47E),
    (0x480, 0x480), (0x48A, 0x48A), (0x48C, 0x48C), (0x48E, 0x48E),
    (0x490, 0x490), (0x492, 0x492), (0x494, 0x494), (0x496, 0x496),
    (0x498, 0x498), (0x49A, 0x49A), (0x49C, 0x49C), (0x49E, 0x49E),
    (0x4A0, 0x4A0), (0x4A2, 0x4A2), (0x4A4, 0x4A4), (0x4A6, 0x4A6),
    (0x4A8, 0x4A8), (0x4AA, 0x4AA), (0x4AC, 0x4AC), (0x4AE, 0x4AE),
    (0x4B0, 0x4B0), (0x4B2, 0x4B2), (0x4B4, 0x4B4), (0x4B6, 0x4B6),
    (0x4B8, 0x4B8), (0x4BA, 0x4BA), (0x4BC, 0x4BC), (0x4BE, 0x4BE),
    (0x4C0, 0x4C1), (0x4C3, 0x4C3), (0x4C5, 0x4C5), (0x4C7, 0x4C7),
    (0x4C9, 0x4C9), (0x4CB, 0x4CB), (0x4CD, 0x4CD), (0x4D0, 0x4D0),
    (0x4D2, 0x4D2), (0x4D4, 0x4D4), (0x4D6, 0x4D6), (0x4D8, 0x4D8),
    (0x4DA, 0x4DA), (0x4DC, 0x4DC), (0x4DE, 0x4DE), (0x4E0, 0x4E0),
    (0x4E2, 0x4E2), (0x4E4, 0x4E4), (0x4E6, 0x4E6), (0x4E8, 0x4E8),
    (0x4EA, 0x4EA), (0x4EC, 0x4EC), (0x4EE, 0x4EE), (0x4F0, 0x4F0),
    (0x4F2, 0x4F2), (0x4F4, 0x4F4), (0x4F6, 0x4F6), (0x4F8, 0x4F8),
    (0x4FA, 0x4FA), (0x4FC, 0x4FC), (0x4FE, 0x4FE), (0x500, 0x500),
    (0x502, 0x502), (0x504, 0x504), (0x506, 0x506), (0x508, 0x508),
    (0x50A, 0x50A), (0x50C, 0x50C), (0x50E, 0x50E), (0x510, 0x510),
    (0x512, 0x512), (0x514, 0x514), (0x516, 0x516), (0x518, 0x518),
    (0x51A, 0x51A), (0x51C, 0x51C), (0x51E, 0x51E), (0x520, 0x520),
    (0x522, 0x522), (0x524, 0x524), (0x526, 0x526), (0x528, 0x528),
    (0x52A, 0x52A), (0x52C, 0x52C), (0x52E, 0x52E), (0x531, 0x556),
    (0x587, 0x587), (0x675, 0x678), (0x958, 0x95F), (0x9DC, 0x9DD),
    (0x9DF, 0x9DF), (0xA33, 0xA33), (0xA36, 0xA36), (0xA59, 0xA5B),
    (0xA5E, 0xA5E), (0xB5C, 0xB5D), (0xE33, 0xE33), (0xEB3, 0xEB3),
    (0xEDC, 0xEDD), (0xF0C, 0xF0C), (0xF43, 0xF43), (0xF4D, 0xF4D),
    (0xF52, 0xF52), (0xF57, 0xF57), (0xF5C, 0xF5C), (0xF69, 0xF69),
    (0xF73, 0xF73), (0xF75, 0xF79), (0xF81, 0xF81), (0xF93, 0xF93),
    (0xF9D, 0xF9D), (0xFA2, 0xFA2), (0xFA7, 0xFA7), (0xFAC, 0xFAC),
    (0xFB9, 0xFB9), (0x10A0, 0x10C5), (0x10C7, 0x10C7), (0x10CD, 0x10CD),
    (0x10FC, 0x10FC), (0x115F, 0x1160), (0x13F8, 0x13FD), (0x17B4, 0x17B5),
    (0x180B, 0x180F), (0x1C80, 0x1C89), (0x1C90, 0x1CBA), (0x1CBD, 0x1CBF),
    (0x1D2C, 0x1D2E), (0x1D30, 0x1D3A), (0x1D3C, 0x1D4D), (0x1D4F, 0x1D6A),
    (0x1D78, 0x1D78), (0x1D9B, 0x1DBF), (0x1E00, 0x1E00), (0x1E02, 0x1E02),
    (0x1E04, 0x1E04), (0x1E06, 0x1E06), (0x1E08, 0x1E08), (0x1E0A, 0x1E0A),
    (0x1E0C, 0x1E0C), (0x1E0E, 0x1E0E), (0x1E10, 0x1E10), (0x1E12, 0x1E12),
    (0x1E14, 0x1E14), (0x1E16, 0x1E16), (0x1E18, 0x1E18), (0x1E1A, 0x1E1A),
    (0x1E1C, 0x1E1C), (0x1E1E, 0x1E1E), (0x1E20, 0x1E20), (0x1E22, 0x1E22),
    (0x1E24, 0x1E24), (0x1E26, 0x1E26), (0x1E28, 0x1E28), (0x1E2A, 0x1E2A),
    (0x1E2C, 0x1E2C), (0x1E2E, 0x1E2E), (0x1E30, 0x1E30), (0x1E32, 0x1E32),
    (0x1E34, 0x1E34), (0x1E36, 0x1E36), (0x1E38, 0x1E38), (0x1E3A, 0x1E3A),
    (0x1E3C, 0x1E3C), (0x1E3E, 0x1E3E), (0x1E40, 0x1E40), (0x1E42, 0x1E42),
    (0x1E44, 0x1E44), (0x1E46, 0x1E46), (0x1E48, 0x1E48), (0x1E4A, 0x1E4A),
    (0x1E4C, 0x1E4C), (0x1E4E, 0x1E4E), (0x1E50, 0x1E50), (0x1E52, 0x1E52),
    (0x1E54, 0x1E54), (0x1E56, 0x1E56), (0x1E58, 0x1E58), (0x1E5A, 0x1E5A),
    (0x1E5C, 0x1E5C), (0x1E5E, 0x1E5E), (0x1E60, 0x1E60), (0x1E62, 0x1E62),
    (0x1E64, 0x1E64), (0x1E66, 0x1E66), (0x1E68, 0x1E68), (0x1E6A, 0x1E6A),
    (0x1E6C, 0x1E6C), (0x1E6E, 0x1E6E), (0x1E70, 0x1E70), (0x1E72, 0x1E72),
    (0x1E74, 0x1E74), (0x1E76, 0x1E76), (0x1E78, 0x1E78), (0x1E7A, 0x1E7A),
    (0x1E7C, 0x1E7C), (0x1E7E, 0x1E7E), (0x1E80, 0x1E80), (0x1E82, 0x1E82),
    (0x1E84, 0x1E84), (0x1E86, 0x1E86), (0x1E88, 0x1E88), (0x1E8A, 0x1E8A),
    (0x1E8C, 0x1E8C), (0x1E8E, 0x1E8E), (0x1E90, 0x1E90), (0x1E92, 0x1E92),
    (0x1E94, 0x1E94), (0x1E9A, 0x1E9B), (0x1E9E, 0x1E9E), (0x1EA0, 0x1EA0),
    (0x1EA2, 0x1EA2), (0x1EA4, 0x1EA4), (0x1EA6, 0x1EA6), (0x1EA8, 0x1EA8),
    (0x1EAA, 0x1EAA), (0x1EAC, 0x1EAC), (0x1EAE, 0x1EAE), (0x1EB0, 0x1EB0),
    (0x1EB2, 0x1EB2), (0x1EB4, 0x1EB4), (0x1EB6, 0x1EB6), (0x1EB8, 0x1EB8),
    (0x1EBA, 0x1EBA), (0x1EBC, 0x1EBC), (0x1EBE, 0x1EBE), (0x1EC0, 0x1EC0),
    (0x1EC2, 0x1EC2), (0x1EC4, 0x1EC4), (0x1EC6, 0x1EC6), (0x1EC8, 0x1EC8),
    (0x1ECA, 0x1ECA), (0x1ECC, 0x1ECC), (0x1ECE, 0x1ECE), (0x1ED0, 0x1ED0),
    (0x1ED2, 0x1ED2), (0x1ED4, 0x1ED4), (0x1ED6, 0x1ED6), (0x1ED8, 0x1ED8),
    (0x1EDA, 0x1EDA), (0x1EDC, 0x1EDC), (0x1EDE, 0x1EDE), (0x1EE0, 0x1EE0),
    (0x1EE2, 0x1EE2), (0x1EE4, 0x1EE4), (0x1EE6, 0x1EE6), (0x1EE8, 0x1EE8),
    (0x1EEA, 0x1EEA), (0x1EEC, 0x1EEC), (0x1EEE, 0x1EEE), (0x1EF0, 0x1EF0),
    (0x1EF2, 0x1EF2), (0x1EF4, 0x1EF4), (0x1EF6, 0x1EF6), (0x1EF8, 0x1EF8),
    (0x1EFA, 0x1EFA), (0x1EFC, 0x1EFC), (0x1EFE, 0x1EFE), (0x1F08, 0x1F0F),
    (0x1F18, 0x1F1D), (0x1F28, 0x1F2F), (0x1F38, 0x1F3F), (0x1F48, 0x1F4D),
    (0x1F59, 0x1F59), (0x1F5B, 0x1F5B), (0x1F5D, 0x1F5D), (0x1F5F, 0x1F5F),
    (0x1F68, 0x1F6F), (0x1F71, 0x1F71), (0x1F73, 0x1F73), (0x1F75, 0x1F75),
    (0x1F77, 0x1F77), (0x1F79, 0x1F79), (0x1F7B, 0x1F7B), (0x1F7D, 0x1F7D),
    (0x1F80, 0x1FAF), (0x1FB2, 0x1FB4), (0x1FB7, 0x1FC4), (0x1FC7, 0x1FCF),
    (0x1FD3, 0x1FD3), (0x1FD8, 0x1FDB), (0x1FDD, 0x1FDF), (0x1FE3, 0x1FE3),
    (0x1FE8, 0x1FEF), (0x1FF2, 0x1FF4), (0x1FF7, 0x1FFE), (0x2000, 0x200B),
    (0x2011, 0x2011), (0x2017, 0x2017), (0x202F, 0x202F), (0x2033, 0x2034),
    (0x2036, 0x2037), (0x203C, 0x203C), (0x203E, 0x203E), (0x2047, 0x2049),
    (0x2057, 0x2057), (0x205F, 0x2064), (0x206A, 0x2071), (0x2074, 0x208E),
    (0x2090, 0x209C), (0x20A8, 0x20A8), (0x2100, 0x2103), (0x2105, 0x2107),
    (0x2109, 0x2113), (0x2115, 0x2116), (0x2119, 0x211D), (0x2120, 0x2122),
    (0x2124, 0x2124), (0x2126, 0x2126), (0x2128, 0x2128), (0x212A, 0x212D),
    (0x212F, 0x2139), (0x213B, 0x2140), (0x2145, 0x2149), (0x2150, 0x217F),
    (0x2183, 0x2183), (0x2189, 0x2189), (0x222C, 0x222D), (0x222F, 0x2230),
    (0x2329, 0x232A), (0x2460, 0x2487), (0x249C, 0x24EA), (0x2A0C, 0x2A0C),
    (0x2A74, 0x2A76), (0x2ADC, 0x2ADC), (0x2C00, 0x2C2F), (0x2C60, 0x2C60),
    (0x2C62, 0x2C64), (0x2C67, 0x2C67), (0x2C69, 0x2C69), (0x2C6B, 0x2C6B),
    (0x2C6D, 0x2C70), (0x2C72, 0x2C72), (0x2C75, 0x2C75), (0x2C7C, 0x2C80),
    (0x2C82, 0x2C82), (0x2C84, 0x2C84), (0x2C86, 0x2C86), (0x2C88, 0x2C88),
    (0x2C8A, 0x2C8A), (0x2C8C, 0x2C8C), (0x2C8E, 0x2C8E), (0x2C90, 0x2C90),
    (0x2C92, 0x2C92), (0x2C94, 0x2C94), (0x2C96, 0x2C96), (0x2C98, 0x2C98),
    (0x2C9A, 0x2C9A), (0x2C9C, 0x2C9C), (0x2C9E, 0x2C9E), (0x2CA0, 0x2CA0),
    (0x2CA2, 0x2CA2), (0x2CA4, 0x2CA4), (0x2CA6, 0x2CA6), (0x2CA8, 0x2CA8),
    (0x2CAA, 0x2CAA), (0x2CAC, 0x2CAC), (0x2CAE, 0x2CAE), (0x2CB0, 0x2CB0),
    (0x2CB2, 0x2CB2), (0x2CB4, 0x2CB4), (0x2CB6, 0x2CB6), (0x2CB8, 0x2CB8),
    (0x2CBA, 0x2CBA), (0x2CBC, 0x2CBC), (0x2CBE, 0x2CBE), (0x2CC0, 0x2CC0),
    (0x2CC2, 0x2CC2), (0x2CC4, 0x2CC4), (0x2CC6, 0x2CC6), (0x2CC8, 0x2CC8),
    (0x2CCA, 0x2CCA), (0x2CCC, 0x2CCC), (0x2CCE, 0x2CCE), (0x2CD0, 0x2CD0),
    (0x2CD2, 0x2CD2), (0x2CD4, 0x2CD4), (0x2CD6, 0x2CD6), (0x2CD8, 0x2CD8),
    (0x2CDA, 0x2CDA), (0x2CDC, 0x2CDC), (0x2CDE, 0x2CDE), (0x2CE0, 0x2CE0),
    (0x2CE2, 0x2CE2), (0x2CEB, 0x2CEB), (0x2CED, 0x2CED), (0x2CF2, 0x2CF2),
    (0x2D6F, 0x2D6F), (0x2E9F, 0x2E9F), (0x2EF3, 0x2EF3), (0x2F00, 0x2FD5),
    (0x3000, 0x3000), (0x3002, 0x3002), (0x3036, 0x3036), (0x3038, 0x303A),
    (0x309B, 0x309C), (0x309F, 0x309F), (0x30FF, 0x30FF), (0x3131, 0x318E),
    (0x3192, 0x319F), (0x3200, 0x321E), (0x3220, 0x3247), (0x3250, 0x327E),
    (0x3280, 0x33C1), (0x33C3, 0x33C6), (0x33C8, 0x33D7), (0x33D9, 0x33FF),
    (0xA640, 0xA640), (0xA642, 0xA642), (0xA644, 0xA644), (0xA646, 0xA646),
    (0xA648, 0xA648), (0xA64A, 0xA64A), (0xA64C, 0xA64C), (0xA64E, 0xA64E),
    (0xA650, 0xA650), (0xA652, 0xA652), (0xA654, 0xA654), (0xA656, 0xA656),
    (0xA658, 0xA658), (0xA65A, 0xA65A), (0xA65C, 0xA65C), (0xA65E, 0xA65E),
    (0xA660, 0xA660), (0xA662, 0xA662), (0xA664, 0xA664), (0xA666, 0xA666),
    (0xA668, 0xA668), (0xA66A, 0xA66A), (0xA66C, 0xA66C), (0xA680, 0xA680),
    (0xA682, 0xA682), (0xA684, 0xA684), (0xA686, 0xA686), (0xA688, 0xA688),
    (0xA68A, 0xA68A), (0xA68C, 0xA68C), (0xA68E, 0xA68E), (0xA690, 0xA690),
    (0xA692, 0xA692), (0xA694, 0xA694), (0xA696, 0xA696), (0xA698, 0xA698),
    (0xA69A, 0xA69A), (0xA69C, 0xA69D), (0xA722, 0xA722), (0xA724, 0xA724),
    (0xA726, 0xA726), (0xA728, 0xA728), (0xA72A, 0xA72A), (0xA72C, 0xA72C),
    (0xA72E, 0xA72E), (0xA732, 0xA732), (0xA734, 0xA734), (0xA736, 0xA736),
    (0xA738, 0xA738), (0xA73A, 0xA73A), (0xA73C, 0xA73C), (0xA73E, 0xA73E),
    (0xA740, 0xA740), (0xA742, 0xA742), (0xA744, 0xA744), (0xA746, 0xA746),
    (0xA748, 0xA748), (0xA74A, 0xA74A), (0xA74C, 0xA74C), (0xA74E, 0xA74E),
    (0xA750, 0xA750), (0xA752, 0xA752), (0xA754, 0xA754), (0xA756, 0xA756),
    (0xA758, 0xA758), (0xA75A, 0xA75A), (0xA75C, 0xA75C), (0xA75E, 0xA75E),
    (0xA760, 0xA760), (0xA762, 0xA762), (0xA764, 0xA764), (0xA766, 0xA766),
    (0xA768, 0xA768), (0xA76A, 0xA76A), (0xA76C, 0xA76C), (0xA76E, 0xA76E),
    (0xA770, 0xA770), (0xA779, 0xA779), (0xA77B, 0xA77B), (0xA77D, 0xA77E),
    (0xA780, 0xA780), (0xA782, 0xA782), (0xA784, 0xA784), (0xA786, 0xA786),
    (0xA78B, 0xA78B), (0xA78D, 0xA78D), (0xA790, 0xA790), (0xA792, 0xA792),
    (0xA796, 0xA796), (0xA798, 0xA798), (0xA79A, 0xA79A), (0xA79C, 0xA79C),
    (0xA79E, 0xA79E), (0xA7A0, 0xA7A0), (0xA7A2, 0xA7A2), (0xA7A4, 0xA7A4),
    (0xA7A6, 0xA7A6), (0xA7A8, 0xA7A8), (0xA7AA, 0xA7AE), (0xA7B0, 0xA7B4),
    (0xA7B6, 0xA7B6), (0xA7B8, 0xA7B8), (0xA7BA, 0xA7BA), (0xA7BC, 0xA7BC),
    (0xA7BE, 0xA7BE), (0xA7C0, 0xA7C0), (0xA7C2, 0xA7C2), (0xA7C4, 0xA7C7),
    (0xA7C9, 0xA7C9), (0xA7CB, 0xA7CC), (0xA7CE, 0xA7CE), (0xA7D0, 0xA7D0),
    (0xA7D2, 0xA7D2), (0xA7D4, 0xA7D4), (0xA7D6, 0xA7D6), (0xA7D8, 0xA7D8),
    (0xA7DA, 0xA7DA), (0xA7DC, 0xA7DC), (0xA7F1, 0xA7F5), (0xA7F8, 0xA7F9),
    (0xAB5C, 0xAB5F), (0xAB69, 0xAB69), (0xAB70, 0xABBF), (0xF900, 0xFA0D),
    (0xFA10, 0xFA10), (0xFA12, 0xFA12), (0xFA15, 0xFA1E), (0xFA20, 0xFA20),
    (0xFA22, 0xFA22), (0xFA25, 0xFA26), (0xFA2A, 0xFA6D), (0xFA70, 0xFAD9),
    (0xFB00, 0xFB06), (0xFB13, 0xFB17), (0xFB1D, 0xFB1D), (0xFB1F, 0xFB36),
    (0xFB38, 0xFB3C), (0xFB3E, 0xFB3E), (0xFB40, 0xFB41), (0xFB43, 0xFB44),
    (0xFB46, 0xFBB1), (0xFBD3, 0xFD3D), (0xFD50, 0xFD8F), (0xFD92, 0xFDC7),
    (0xFDF0, 0xFDFC), (0xFE00, 0xFE11), (0xFE13, 0xFE18), (0xFE31, 0xFE44),
    (0xFE47, 0xFE51), (0xFE54, 0xFE66), (0xFE68, 0xFE6B), (0xFE70, 0xFE72),
    (0xFE74, 0xFE74), (0xFE76, 0xFEFC), (0xFEFF, 0xFEFF), (0xFF01, 0xFFBE),
    (0xFFC2, 0xFFC7), (0xFFCA, 0xFFCF), (0xFFD2, 0xFFD7), (0xFFDA, 0xFFDC),
    (0xFFE0, 0xFFE6), (0xFFE8, 0xFFEE), (0x10400, 0x10427),
    (0x104B0, 0x104D3), (0x10570, 0x1057A), (0x1057C, 0x1058A),
    (0x1058C, 0x10592), (0x10594, 0x10595), (0x10781, 0x10785),
    (0x10787, 0x107B0), (0x107B2, 0x107BA), (0x10C80, 0x10CB2),
    (0x10D50, 0x10D65), (0x118A0, 0x118BF), (0x16E40, 0x16E5F),
    (0x16EA0, 0x16EB8), (0x1BCA0, 0x1BCA3), (0x1CCD6, 0x1CCF9),
    (0x1D15E, 0x1D164), (0x1D173, 0x1D17A), (0x1D1BB, 0x1D1C0),
    (0x1D400, 0x1D454), (0x1D456, 0x1D49C), (0x1D49E, 0x1D49F),
    (0x1D4A2, 0x1D4A2), (0x1D4A5, 0x1D4A6), (0x1D4A9, 0x1D4AC),
    (0x1D4AE, 0x1D4B9), (0x1D4BB, 0x1D4BB), (0x1D4BD, 0x1D4C3),
    (0x1D4C5, 0x1D505), (0x1D507, 0x1D50A), (0x1D50D, 0x1D514),
    (0x1D516, 0x1D51C), (0x1D51E, 0x1D539), (0x1D53B, 0x1D53E),
    (0x1D540, 0x1D544), (0x1D546, 0x1D546), (0x1D54A, 0x1D550),
    (0x1D552, 0x1D6A5), (0x1D6A8, 0x1D7CB), (0x1D7CE, 0x1D7FF),
    (0x1E030, 0x1E06D), (0x1E900, 0x1E921), (0x1EE00, 0x1EE03),
    (0x1EE05, 0x1EE1F), (0x1EE21, 0x1EE22), (0x1EE24, 0x1EE24),
    (0x1EE27, 0x1EE27), (0x1EE29, 0x1EE32), (0x1EE34, 0x1EE37),
    (0x1EE39, 0x1EE39), (0x1EE3B, 0x1EE3B), (0x1EE42, 0x1EE42),
    (0x1EE47, 0x1EE47), (0x1EE49, 0x1EE49), (0x1EE4B, 0x1EE4B),
    (0x1EE4D, 0x1EE4F), (0x1EE51, 0x1EE52), (0x1EE54, 0x1EE54),
    (0x1EE57, 0x1EE57), (0x1EE59, 0x1EE59), (0x1EE5B, 0x1EE5B),
    (0x1EE5D, 0x1EE5D), (0x1EE5F, 0x1EE5F), (0x1EE61, 0x1EE62),
    (0x1EE64, 0x1EE64), (0x1EE67, 0x1EE6A), (0x1EE6C, 0x1EE72),
    (0x1EE74, 0x1EE77), (0x1EE79, 0x1EE7C), (0x1EE7E, 0x1EE7E),
    (0x1EE80, 0x1EE89), (0x1EE8B, 0x1EE9B), (0x1EEA1, 0x1EEA3),
    (0x1EEA5, 0x1EEA9), (0x1EEAB, 0x1EEBB), (0x1F101, 0x1F10A),
    (0x1F110, 0x1F12E), (0x1F130, 0x1F14F), (0x1F16A, 0x1F16C),
    (0x1F190, 0x1F190), (0x1F200, 0x1F202), (0x1F210, 0x1F23B),
    (0x1F240, 0x1F248), (0x1F250, 0x1F251), (0x1FBF0, 0x1FBF9),
    (0x2F800, 0x2FA1D), (0xE0100, 0xE01EF)]

/-- The code points that are mapped to nothing. -/
def ignoredRanges : List (Nat × Nat) :=
  [(0xAD, 0xAD), (0x34F, 0x34F), (0x115F, 0x1160), (0x17B4, 0x17B5),
    (0x180B, 0x180F), (0x200B, 0x200B), (0x2060, 0x2064), (0x206A, 0x206F),
    (0x3164, 0x3164), (0xFE00, 0xFE0F), (0xFEFF, 0xFEFF), (0xFFA0, 0xFFA0),
    (0x1BCA0, 0x1BCA3), (0x1D173, 0x1D17A), (0xE0100, 0xE01EF)]

/-- The code points that are mapped to one ASCII character: first and last code
point of a range, and what the first one is mapped to. -/
def asciiRanges : List (Nat × Nat × Nat) :=
  [(0xA0, 0xA0, 0x20), (0xAA, 0xAA, 0x61), (0xB2, 0xB3, 0x32),
    (0xB9, 0xB9, 0x31), (0xBA, 0xBA, 0x6F), (0x17F, 0x17F, 0x73),
    (0x2B0, 0x2B0, 0x68), (0x2B2, 0x2B2, 0x6A), (0x2B3, 0x2B3, 0x72),
    (0x2B7, 0x2B7, 0x77), (0x2B8, 0x2B8, 0x79), (0x2E1, 0x2E1, 0x6C),
    (0x2E2, 0x2E2, 0x73), (0x2E3, 0x2E3, 0x78), (0x37E, 0x37E, 0x3B),
    (0x1D2C, 0x1D2C, 0x61), (0x1D2E, 0x1D2E, 0x62), (0x1D30, 0x1D31, 0x64),
    (0x1D33, 0x1D3A, 0x67), (0x1D3C, 0x1D3C, 0x6F), (0x1D3E, 0x1D3E, 0x70),
    (0x1D3F, 0x1D3F, 0x72), (0x1D40, 0x1D41, 0x74), (0x1D42, 0x1D42, 0x77),
    (0x1D43, 0x1D43, 0x61), (0x1D47, 0x1D47, 0x62), (0x1D48, 0x1D49, 0x64),
    (0x1D4D, 0x1D4D, 0x67), (0x1D4F, 0x1D4F, 0x6B), (0x1D50, 0x1D50, 0x6D),
    (0x1D52, 0x1D52, 0x6F), (0x1D56, 0x1D56, 0x70), (0x1D57, 0x1D58, 0x74),
    (0x1D5B, 0x1D5B, 0x76), (0x1D62, 0x1D62, 0x69), (0x1D63, 0x1D63, 0x72),
    (0x1D64, 0x1D65, 0x75), (0x1D9C, 0x1D9C, 0x63), (0x1DA0, 0x1DA0, 0x66),
    (0x1DBB, 0x1DBB, 0x7A), (0x1FEF, 0x1FEF, 0x60), (0x2000, 0x2000, 0x20),
    (0x2001, 0x2001, 0x20), (0x2002, 0x2002, 0x20), (0x2003, 0x2003, 0x20),
    (0x2004, 0x2004, 0x20), (0x2005, 0x2005, 0x20), (0x2006, 0x2006, 0x20),
    (0x2007, 0x2007, 0x20), (0x2008, 0x2008, 0x20), (0x2009, 0x2009, 0x20),
    (0x200A, 0x200A, 0x20), (0x202F, 0x202F, 0x20), (0x205F, 0x205F, 0x20),
    (0x2070, 0x2070, 0x30), (0x2071, 0x2071, 0x69), (0x2074, 0x2079, 0x34),
    (0x207A, 0x207A, 0x2B), (0x207C, 0x207C, 0x3D), (0x207D, 0x207E, 0x28),
    (0x207F, 0x207F, 0x6E), (0x2080, 0x2089, 0x30), (0x208A, 0x208A, 0x2B),
    (0x208C, 0x208C, 0x3D), (0x208D, 0x208E, 0x28), (0x2090, 0x2090, 0x61),
    (0x2091, 0x2091, 0x65), (0x2092, 0x2092, 0x6F), (0x2093, 0x2093, 0x78),
    (0x2095, 0x2095, 0x68), (0x2096, 0x2099, 0x6B), (0x209A, 0x209A, 0x70),
    (0x209B, 0x209C, 0x73), (0x2102, 0x2102, 0x63), (0x210A, 0x210B, 0x67),
    (0x210C, 0x210C, 0x68), (0x210D, 0x210D, 0x68), (0x210E, 0x210E, 0x68),
    (0x2110, 0x2110, 0x69), (0x2111, 0x2111, 0x69), (0x2112, 0x2112, 0x6C),
    (0x2113, 0x2113, 0x6C), (0x2115, 0x2115, 0x6E), (0x2119, 0x211B, 0x70),
    (0x211C, 0x211C, 0x72), (0x211D, 0x211D, 0x72), (0x2124, 0x2124, 0x7A),
    (0x2128, 0x2128, 0x7A), (0x212A, 0x212A, 0x6B), (0x212C, 0x212D, 0x62),
    (0x212F, 0x212F, 0x65), (0x2130, 0x2131, 0x65), (0x2133, 0x2133, 0x6D),
    (0x2134, 0x2134, 0x6F), (0x2139, 0x2139, 0x69), (0x2145, 0x2145, 0x64),
    (0x2146, 0x2147, 0x64), (0x2148, 0x2149, 0x69), (0x2160, 0x2160, 0x69),
    (0x2164, 0x2164, 0x76), (0x2169, 0x2169, 0x78), (0x216C, 0x216C, 0x6C),
    (0x216D, 0x216E, 0x63), (0x216F, 0x216F, 0x6D), (0x2170, 0x2170, 0x69),
    (0x2174, 0x2174, 0x76), (0x2179, 0x2179, 0x78), (0x217C, 0x217C, 0x6C),
    (0x217D, 0x217E, 0x63), (0x217F, 0x217F, 0x6D), (0x2460, 0x2468, 0x31),
    (0x24B6, 0x24CF, 0x61), (0x24D0, 0x24E9, 0x61), (0x24EA, 0x24EA, 0x30),
    (0x2C7C, 0x2C7C, 0x6A), (0x2C7D, 0x2C7D, 0x76), (0x3000, 0x3000, 0x20),
    (0x3002, 0x3002, 0x2E), (0xA7F1, 0xA7F1, 0x73), (0xA7F2, 0xA7F2, 0x63),
    (0xA7F3, 0xA7F3, 0x66), (0xA7F4, 0xA7F4, 0x71), (0xFB29, 0xFB29, 0x2B),
    (0xFE10, 0xFE10, 0x2C), (0xFE13, 0xFE14, 0x3A), (0xFE15, 0xFE15, 0x21),
    (0xFE16, 0xFE16, 0x3F), (0xFE33, 0xFE33, 0x5F), (0xFE34, 0xFE34, 0x5F),
    (0xFE35, 0xFE36, 0x28), (0xFE37, 0xFE37, 0x7B), (0xFE38, 0xFE38, 0x7D),
    (0xFE47, 0xFE47, 0x5B), (0xFE48, 0xFE48, 0x5D), (0xFE4D, 0xFE4D, 0x5F),
    (0xFE4E, 0xFE4E, 0x5F), (0xFE4F, 0xFE4F, 0x5F), (0xFE50, 0xFE50, 0x2C),
    (0xFE54, 0xFE54, 0x3B), (0xFE55, 0xFE55, 0x3A), (0xFE56, 0xFE56, 0x3F),
    (0xFE57, 0xFE57, 0x21), (0xFE59, 0xFE5A, 0x28), (0xFE5B, 0xFE5B, 0x7B),
    (0xFE5C, 0xFE5C, 0x7D), (0xFE5F, 0xFE5F, 0x23), (0xFE60, 0xFE60, 0x26),
    (0xFE61, 0xFE62, 0x2A), (0xFE63, 0xFE63, 0x2D), (0xFE64, 0xFE64, 0x3C),
    (0xFE65, 0xFE65, 0x3E), (0xFE66, 0xFE66, 0x3D), (0xFE68, 0xFE68, 0x5C),
    (0xFE69, 0xFE6A, 0x24), (0xFE6B, 0xFE6B, 0x40), (0xFF01, 0xFF20, 0x21),
    (0xFF21, 0xFF3A, 0x61), (0xFF3B, 0xFF5E, 0x5B), (0xFF61, 0xFF61, 0x2E),
    (0x107A5, 0x107A5, 0x71), (0x1CCD6, 0x1CCEF, 0x61),
    (0x1CCF0, 0x1CCF9, 0x30), (0x1D400, 0x1D419, 0x61),
    (0x1D41A, 0x1D433, 0x61), (0x1D434, 0x1D44D, 0x61),
    (0x1D44E, 0x1D454, 0x61), (0x1D456, 0x1D467, 0x69),
    (0x1D468, 0x1D481, 0x61), (0x1D482, 0x1D49B, 0x61),
    (0x1D49C, 0x1D49C, 0x61), (0x1D49E, 0x1D49F, 0x63),
    (0x1D4A2, 0x1D4A2, 0x67), (0x1D4A5, 0x1D4A6, 0x6A),
    (0x1D4A9, 0x1D4AC, 0x6E), (0x1D4AE, 0x1D4B5, 0x73),
    (0x1D4B6, 0x1D4B9, 0x61), (0x1D4BB, 0x1D4BB, 0x66),
    (0x1D4BD, 0x1D4C3, 0x68), (0x1D4C5, 0x1D4CF, 0x70),
    (0x1D4D0, 0x1D4E9, 0x61), (0x1D4EA, 0x1D503, 0x61),
    (0x1D504, 0x1D505, 0x61), (0x1D507, 0x1D50A, 0x64),
    (0x1D50D, 0x1D514, 0x6A), (0x1D516, 0x1D51C, 0x73),
    (0x1D51E, 0x1D537, 0x61), (0x1D538, 0x1D539, 0x61),
    (0x1D53B, 0x1D53E, 0x64), (0x1D540, 0x1D544, 0x69),
    (0x1D546, 0x1D546, 0x6F), (0x1D54A, 0x1D550, 0x73),
    (0x1D552, 0x1D56B, 0x61), (0x1D56C, 0x1D585, 0x61),
    (0x1D586, 0x1D59F, 0x61), (0x1D5A0, 0x1D5B9, 0x61),
    (0x1D5BA, 0x1D5D3, 0x61), (0x1D5D4, 0x1D5ED, 0x61),
    (0x1D5EE, 0x1D607, 0x61), (0x1D608, 0x1D621, 0x61),
    (0x1D622, 0x1D63B, 0x61), (0x1D63C, 0x1D655, 0x61),
    (0x1D656, 0x1D66F, 0x61), (0x1D670, 0x1D689, 0x61),
    (0x1D68A, 0x1D6A3, 0x61), (0x1D7CE, 0x1D7D7, 0x30),
    (0x1D7D8, 0x1D7E1, 0x30), (0x1D7E2, 0x1D7EB, 0x30),
    (0x1D7EC, 0x1D7F5, 0x30), (0x1D7F6, 0x1D7FF, 0x30),
    (0x1F12B, 0x1F12B, 0x63), (0x1F12C, 0x1F12C, 0x72),
    (0x1F130, 0x1F149, 0x61), (0x1FBF0, 0x1FBF9, 0x30)]

/-- The code points that are mapped to several characters with ASCII among
them. -/
def asciiTexts : List (Nat × String) :=
  [(0xA8, " \u0308"), (0xAF, " \u0304"), (0xB4, " \u0301"), (0xB8, " \u0327"),
    (0xBC, "1⁄4"), (0xBD, "1⁄2"), (0xBE, "3⁄4"), (0x130, "i\u0307"),
    (0x132, "ij"), (0x133, "ij"), (0x13F, "l·"), (0x140, "l·"), (0x149, "ʼn"),
    (0x1C4, "dž"), (0x1C5, "dž"), (0x1C6, "dž"), (0x1C7, "lj"), (0x1C8, "lj"),
    (0x1C9, "lj"), (0x1CA, "nj"), (0x1CB, "nj"), (0x1CC, "nj"), (0x1F1, "dz"),
    (0x1F2, "dz"), (0x1F3, "dz"), (0x2D8, " \u0306"), (0x2D9, " \u0307"),
    (0x2DA, " \u030a"), (0x2DB, " \u0328"), (0x2DC, " \u0303"),
    (0x2DD, " \u030b"), (0x37A, " ι"), (0x384, " \u0301"),
    (0x385, " \u0308\u0301"), (0x1E9A, "aʾ"), (0x1FBD, " \u0313"),
    (0x1FBF, " \u0313"), (0x1FC0, " \u0342"), (0x1FC1, " \u0308\u0342"),
    (0x1FCD, " \u0313\u0300"), (0x1FCE, " \u0313\u0301"),
    (0x1FCF, " \u0313\u0342"), (0x1FDD, " \u0314\u0300"),
    (0x1FDE, " \u0314\u0301"), (0x1FDF, " \u0314\u0342"),
    (0x1FED, " \u0308\u0300"), (0x1FEE, " \u0308\u0301"), (0x1FFD, " \u0301"),
    (0x1FFE, " \u0314"), (0x2017, " \u0333"), (0x203C, "!!"),
    (0x203E, " \u0305"), (0x2047, "??"), (0x2048, "?!"), (0x2049, "!?"),
    (0x20A8, "rs"), (0x2100, "a/c"), (0x2101, "a/s"), (0x2103, "°c"),
    (0x2105, "c/o"), (0x2106, "c/u"), (0x2109, "°f"), (0x2116, "no"),
    (0x2120, "sm"), (0x2121, "tel"), (0x2122, "tm"), (0x213B, "fax"),
    (0x2150, "1⁄7"), (0x2151, "1⁄9"), (0x2152, "1⁄10"), (0x2153, "1⁄3"),
    (0x2154, "2⁄3"), (0x2155, "1⁄5"), (0x2156, "2⁄5"), (0x2157, "3⁄5"),
    (0x2158, "4⁄5"), (0x2159, "1⁄6"), (0x215A, "5⁄6"), (0x215B, "1⁄8"),
    (0x215C, "3⁄8"), (0x215D, "5⁄8"), (0x215E, "7⁄8"), (0x215F, "1⁄"),
    (0x2161, "ii"), (0x2162, "iii"), (0x2163, "iv"), (0x2165, "vi"),
    (0x2166, "vii"), (0x2167, "viii"), (0x2168, "ix"), (0x216A, "xi"),
    (0x216B, "xii"), (0x2171, "ii"), (0x2172, "iii"), (0x2173, "iv"),
    (0x2175, "vi"), (0x2176, "vii"), (0x2177, "viii"), (0x2178, "ix"),
    (0x217A, "xi"), (0x217B, "xii"), (0x2189, "0⁄3"), (0x2469, "10"),
    (0x246A, "11"), (0x246B, "12"), (0x246C, "13"), (0x246D, "14"),
    (0x246E, "15"), (0x246F, "16"), (0x2470, "17"), (0x2471, "18"),
    (0x2472, "19"), (0x2473, "20"), (0x2474, "(1)"), (0x2475, "(2)"),
    (0x2476, "(3)"), (0x2477, "(4)"), (0x2478, "(5)"), (0x2479, "(6)"),
    (0x247A, "(7)"), (0x247B, "(8)"), (0x247C, "(9)"), (0x247D, "(10)"),
    (0x247E, "(11)"), (0x247F, "(12)"), (0x2480, "(13)"), (0x2481, "(14)"),
    (0x2482, "(15)"), (0x2483, "(16)"), (0x2484, "(17)"), (0x2485, "(18)"),
    (0x2486, "(19)"), (0x2487, "(20)"), (0x249C, "(a)"), (0x249D, "(b)"),
    (0x249E, "(c)"), (0x249F, "(d)"), (0x24A0, "(e)"), (0x24A1, "(f)"),
    (0x24A2, "(g)"), (0x24A3, "(h)"), (0x24A4, "(i)"), (0x24A5, "(j)"),
    (0x24A6, "(k)"), (0x24A7, "(l)"), (0x24A8, "(m)"), (0x24A9, "(n)"),
    (0x24AA, "(o)"), (0x24AB, "(p)"), (0x24AC, "(q)"), (0x24AD, "(r)"),
    (0x24AE, "(s)"), (0x24AF, "(t)"), (0x24B0, "(u)"), (0x24B1, "(v)"),
    (0x24B2, "(w)"), (0x24B3, "(x)"), (0x24B4, "(y)"), (0x24B5, "(z)"),
    (0x2A74, "::="), (0x2A75, "=="), (0x2A76, "==="), (0x309B, " \u3099"),
    (0x309C, " \u309a"), (0x3200, "(ᄀ)"), (0x3201, "(ᄂ)"), (0x3202, "(ᄃ)"),
    (0x3203, "(ᄅ)"), (0x3204, "(ᄆ)"), (0x3205, "(ᄇ)"), (0x3206, "(ᄉ)"),
    (0x3207, "(ᄋ)"), (0x3208, "(ᄌ)"), (0x3209, "(ᄎ)"), (0x320A, "(ᄏ)"),
    (0x320B, "(ᄐ)"), (0x320C, "(ᄑ)"), (0x320D, "(ᄒ)"), (0x320E, "(가)"),
    (0x320F, "(나)"), (0x3210, "(다)"), (0x3211, "(라)"), (0x3212, "(마)"),
    (0x3213, "(바)"), (0x3214, "(사)"), (0x3215, "(아)"), (0x3216, "(자)"),
    (0x3217, "(차)"), (0x3218, "(카)"), (0x3219, "(타)"), (0x321A, "(파)"),
    (0x321B, "(하)"), (0x321C, "(주)"), (0x321D, "(오전)"), (0x321E, "(오후)"),
    (0x3220, "(一)"), (0x3221, "(二)"), (0x3222, "(三)"), (0x3223, "(四)"),
    (0x3224, "(五)"), (0x3225, "(六)"), (0x3226, "(七)"), (0x3227, "(八)"),
    (0x3228, "(九)"), (0x3229, "(十)"), (0x322A, "(月)"), (0x322B, "(火)"),
    (0x322C, "(水)"), (0x322D, "(木)"), (0x322E, "(金)"), (0x322F, "(土)"),
    (0x3230, "(日)"), (0x3231, "(株)"), (0x3232, "(有)"), (0x3233, "(社)"),
    (0x3234, "(名)"), (0x3235, "(特)"), (0x3236, "(財)"), (0x3237, "(祝)"),
    (0x3238, "(労)"), (0x3239, "(代)"), (0x323A, "(呼)"), (0x323B, "(学)"),
    (0x323C, "(監)"), (0x323D, "(企)"), (0x323E, "(資)"), (0x323F, "(協)"),
    (0x3240, "(祭)"), (0x3241, "(休)"), (0x3242, "(自)"), (0x3243, "(至)"),
    (0x3250, "pte"), (0x3251, "21"), (0x3252, "22"), (0x3253, "23"),
    (0x3254, "24"), (0x3255, "25"), (0x3256, "26"), (0x3257, "27"),
    (0x3258, "28"), (0x3259, "29"), (0x325A, "30"), (0x325B, "31"),
    (0x325C, "32"), (0x325D, "33"), (0x325E, "34"), (0x325F, "35"),
    (0x32B1, "36"), (0x32B2, "37"), (0x32B3, "38"), (0x32B4, "39"),
    (0x32B5, "40"), (0x32B6, "41"), (0x32B7, "42"), (0x32B8, "43"),
    (0x32B9, "44"), (0x32BA, "45"), (0x32BB, "46"), (0x32BC, "47"),
    (0x32BD, "48"), (0x32BE, "49"), (0x32BF, "50"), (0x32C0, "1月"),
    (0x32C1, "2月"), (0x32C2, "3月"), (0x32C3, "4月"), (0x32C4, "5月"),
    (0x32C5, "6月"), (0x32C6, "7月"), (0x32C7, "8月"), (0x32C8, "9月"),
    (0x32C9, "10月"), (0x32CA, "11月"), (0x32CB, "12月"), (0x32CC, "hg"),
    (0x32CD, "erg"), (0x32CE, "ev"), (0x32CF, "ltd"), (0x3358, "0点"),
    (0x3359, "1点"), (0x335A, "2点"), (0x335B, "3点"), (0x335C, "4点"),
    (0x335D, "5点"), (0x335E, "6点"), (0x335F, "7点"), (0x3360, "8点"),
    (0x3361, "9点"), (0x3362, "10点"), (0x3363, "11点"), (0x3364, "12点"),
    (0x3365, "13点"), (0x3366, "14点"), (0x3367, "15点"), (0x3368, "16点"),
    (0x3369, "17点"), (0x336A, "18点"), (0x336B, "19点"), (0x336C, "20点"),
    (0x336D, "21点"), (0x336E, "22点"), (0x336F, "23点"), (0x3370, "24点"),
    (0x3371, "hpa"), (0x3372, "da"), (0x3373, "au"), (0x3374, "bar"),
    (0x3375, "ov"), (0x3376, "pc"), (0x3377, "dm"), (0x3378, "dm2"),
    (0x3379, "dm3"), (0x337A, "iu"), (0x3380, "pa"), (0x3381, "na"),
    (0x3382, "μa"), (0x3383, "ma"), (0x3384, "ka"), (0x3385, "kb"),
    (0x3386, "mb"), (0x3387, "gb"), (0x3388, "cal"), (0x3389, "kcal"),
    (0x338A, "pf"), (0x338B, "nf"), (0x338C, "μf"), (0x338D, "μg"),
    (0x338E, "mg"), (0x338F, "kg"), (0x3390, "hz"), (0x3391, "khz"),
    (0x3392, "mhz"), (0x3393, "ghz"), (0x3394, "thz"), (0x3395, "μl"),
    (0x3396, "ml"), (0x3397, "dl"), (0x3398, "kl"), (0x3399, "fm"),
    (0x339A, "nm"), (0x339B, "μm"), (0x339C, "mm"), (0x339D, "cm"),
    (0x339E, "km"), (0x339F, "mm2"), (0x33A0, "cm2"), (0x33A1, "m2"),
    (0x33A2, "km2"), (0x33A3, "mm3"), (0x33A4, "cm3"), (0x33A5, "m3"),
    (0x33A6, "km3"), (0x33A7, "m∕s"), (0x33A8, "m∕s2"), (0x33A9, "pa"),
    (0x33AA, "kpa"), (0x33AB, "mpa"), (0x33AC, "gpa"), (0x33AD, "rad"),
    (0x33AE, "rad∕s"), (0x33AF, "rad∕s2"), (0x33B0, "ps"), (0x33B1, "ns"),
    (0x33B2, "μs"), (0x33B3, "ms"), (0x33B4, "pv"), (0x33B5, "nv"),
    (0x33B6, "μv"), (0x33B7, "mv"), (0x33B8, "kv"), (0x33B9, "mv"),
    (0x33BA, "pw"), (0x33BB, "nw"), (0x33BC, "μw"), (0x33BD, "mw"),
    (0x33BE, "kw"), (0x33BF, "mw"), (0x33C0, "kω"), (0x33C1, "mω"),
    (0x33C3, "bq"), (0x33C4, "cc"), (0x33C5, "cd"), (0x33C6, "c∕kg"),
    (0x33C8, "db"), (0x33C9, "gy"), (0x33CA, "ha"), (0x33CB, "hp"),
    (0x33CC, "in"), (0x33CD, "kk"), (0x33CE, "km"), (0x33CF, "kt"),
    (0x33D0, "lm"), (0x33D1, "ln"), (0x33D2, "log"), (0x33D3, "lx"),
    (0x33D4, "mb"), (0x33D5, "mil"), (0x33D6, "mol"), (0x33D7, "ph"),
    (0x33D9, "ppm"), (0x33DA, "pr"), (0x33DB, "sr"), (0x33DC, "sv"),
    (0x33DD, "wb"), (0x33DE, "v∕m"), (0x33DF, "a∕m"), (0x33E0, "1日"),
    (0x33E1, "2日"), (0x33E2, "3日"), (0x33E3, "4日"), (0x33E4, "5日"),
    (0x33E5, "6日"), (0x33E6, "7日"), (0x33E7, "8日"), (0x33E8, "9日"),
    (0x33E9, "10日"), (0x33EA, "11日"), (0x33EB, "12日"), (0x33EC, "13日"),
    (0x33ED, "14日"), (0x33EE, "15日"), (0x33EF, "16日"), (0x33F0, "17日"),
    (0x33F1, "18日"), (0x33F2, "19日"), (0x33F3, "20日"), (0x33F4, "21日"),
    (0x33F5, "22日"), (0x33F6, "23日"), (0x33F7, "24日"), (0x33F8, "25日"),
    (0x33F9, "26日"), (0x33FA, "27日"), (0x33FB, "28日"), (0x33FC, "29日"),
    (0x33FD, "30日"), (0x33FE, "31日"), (0x33FF, "gal"), (0xFB00, "ff"),
    (0xFB01, "fi"), (0xFB02, "fl"), (0xFB03, "ffi"), (0xFB04, "ffl"),
    (0xFB05, "st"), (0xFB06, "st"), (0xFC5E, " \u064c\u0651"),
    (0xFC5F, " \u064d\u0651"), (0xFC60, " \u064e\u0651"),
    (0xFC61, " \u064f\u0651"), (0xFC62, " \u0650\u0651"),
    (0xFC63, " \u0651\u0670"), (0xFDFA, "صلى الله عليه وسلم"),
    (0xFDFB, "جل جلاله"), (0xFE49, " \u0305"), (0xFE4A, " \u0305"),
    (0xFE4B, " \u0305"), (0xFE4C, " \u0305"), (0xFE70, " \u064b"),
    (0xFE72, " \u064c"), (0xFE74, " \u064d"), (0xFE76, " \u064e"),
    (0xFE78, " \u064f"), (0xFE7A, " \u0650"), (0xFE7C, " \u0651"),
    (0xFE7E, " \u0652"), (0xFFE3, " \u0304"), (0x1F101, "0,"),
    (0x1F102, "1,"), (0x1F103, "2,"), (0x1F104, "3,"), (0x1F105, "4,"),
    (0x1F106, "5,"), (0x1F107, "6,"), (0x1F108, "7,"), (0x1F109, "8,"),
    (0x1F10A, "9,"), (0x1F110, "(a)"), (0x1F111, "(b)"), (0x1F112, "(c)"),
    (0x1F113, "(d)"), (0x1F114, "(e)"), (0x1F115, "(f)"), (0x1F116, "(g)"),
    (0x1F117, "(h)"), (0x1F118, "(i)"), (0x1F119, "(j)"), (0x1F11A, "(k)"),
    (0x1F11B, "(l)"), (0x1F11C, "(m)"), (0x1F11D, "(n)"), (0x1F11E, "(o)"),
    (0x1F11F, "(p)"), (0x1F120, "(q)"), (0x1F121, "(r)"), (0x1F122, "(s)"),
    (0x1F123, "(t)"), (0x1F124, "(u)"), (0x1F125, "(v)"), (0x1F126, "(w)"),
    (0x1F127, "(x)"), (0x1F128, "(y)"), (0x1F129, "(z)"), (0x1F12A, "〔s〕"),
    (0x1F12D, "cd"), (0x1F12E, "wz"), (0x1F14A, "hv"), (0x1F14B, "mv"),
    (0x1F14C, "sd"), (0x1F14D, "ss"), (0x1F14E, "ppv"), (0x1F14F, "wc"),
    (0x1F16A, "mc"), (0x1F16B, "md"), (0x1F16C, "mr"), (0x1F190, "dj")]

/-- The combining marks. -/
def markRanges : List (Nat × Nat) :=
  [(0x300, 0x36F), (0x483, 0x489), (0x591, 0x5BD), (0x5BF, 0x5BF),
    (0x5C1, 0x5C2), (0x5C4, 0x5C5), (0x5C7, 0x5C7), (0x610, 0x61A),
    (0x64B, 0x65F), (0x670, 0x670), (0x6D6, 0x6DC), (0x6DF, 0x6E4),
    (0x6E7, 0x6E8), (0x6EA, 0x6ED), (0x711, 0x711), (0x730, 0x74A),
    (0x7A6, 0x7B0), (0x7EB, 0x7F3), (0x7FD, 0x7FD), (0x816, 0x819),
    (0x81B, 0x823), (0x825, 0x827), (0x829, 0x82D), (0x859, 0x85B),
    (0x898, 0x89F), (0x8CA, 0x8E1), (0x8E3, 0x903), (0x93A, 0x93C),
    (0x93E, 0x94F), (0x951, 0x957), (0x962, 0x963), (0x981, 0x983),
    (0x9BC, 0x9BC), (0x9BE, 0x9C4), (0x9C7, 0x9C8), (0x9CB, 0x9CD),
    (0x9D7, 0x9D7), (0x9E2, 0x9E3), (0x9FE, 0x9FE), (0xA01, 0xA03),
    (0xA3C, 0xA3C), (0xA3E, 0xA42), (0xA47, 0xA48), (0xA4B, 0xA4D),
    (0xA51, 0xA51), (0xA70, 0xA71), (0xA75, 0xA75), (0xA81, 0xA83),
    (0xABC, 0xABC), (0xABE, 0xAC5), (0xAC7, 0xAC9), (0xACB, 0xACD),
    (0xAE2, 0xAE3), (0xAFA, 0xAFF), (0xB01, 0xB03), (0xB3C, 0xB3C),
    (0xB3E, 0xB44), (0xB47, 0xB48), (0xB4B, 0xB4D), (0xB55, 0xB57),
    (0xB62, 0xB63), (0xB82, 0xB82), (0xBBE, 0xBC2), (0xBC6, 0xBC8),
    (0xBCA, 0xBCD), (0xBD7, 0xBD7), (0xC00, 0xC04), (0xC3C, 0xC3C),
    (0xC3E, 0xC44), (0xC46, 0xC48), (0xC4A, 0xC4D), (0xC55, 0xC56),
    (0xC62, 0xC63), (0xC81, 0xC83), (0xCBC, 0xCBC), (0xCBE, 0xCC4),
    (0xCC6, 0xCC8), (0xCCA, 0xCCD), (0xCD5, 0xCD6), (0xCE2, 0xCE3),
    (0xD00, 0xD03), (0xD3B, 0xD3C), (0xD3E, 0xD44), (0xD46, 0xD48),
    (0xD4A, 0xD4D), (0xD57, 0xD57), (0xD62, 0xD63), (0xD81, 0xD83),
    (0xDCA, 0xDCA), (0xDCF, 0xDD4), (0xDD6, 0xDD6), (0xDD8, 0xDDF),
    (0xDF2, 0xDF3), (0xE31, 0xE31), (0xE34, 0xE3A), (0xE47, 0xE4E),
    (0xEB1, 0xEB1), (0xEB4, 0xEBC), (0xEC8, 0xECD), (0xF18, 0xF19),
    (0xF35, 0xF35), (0xF37, 0xF37), (0xF39, 0xF39), (0xF3E, 0xF3F),
    (0xF71, 0xF84), (0xF86, 0xF87), (0xF8D, 0xF97), (0xF99, 0xFBC),
    (0xFC6, 0xFC6), (0x102B, 0x103E), (0x1056, 0x1059), (0x105E, 0x1060),
    (0x1062, 0x1064), (0x1067, 0x106D), (0x1071, 0x1074), (0x1082, 0x108D),
    (0x108F, 0x108F), (0x109A, 0x109D), (0x135D, 0x135F), (0x1712, 0x1715),
    (0x1732, 0x1734), (0x1752, 0x1753), (0x1772, 0x1773), (0x17B4, 0x17D3),
    (0x17DD, 0x17DD), (0x180B, 0x180D), (0x180F, 0x180F), (0x1885, 0x1886),
    (0x18A9, 0x18A9), (0x1920, 0x192B), (0x1930, 0x193B), (0x1A17, 0x1A1B),
    (0x1A55, 0x1A5E), (0x1A60, 0x1A7C), (0x1A7F, 0x1A7F), (0x1AB0, 0x1ACE),
    (0x1B00, 0x1B04), (0x1B34, 0x1B44), (0x1B6B, 0x1B73), (0x1B80, 0x1B82),
    (0x1BA1, 0x1BAD), (0x1BE6, 0x1BF3), (0x1C24, 0x1C37), (0x1CD0, 0x1CD2),
    (0x1CD4, 0x1CE8), (0x1CED, 0x1CED), (0x1CF4, 0x1CF4), (0x1CF7, 0x1CF9),
    (0x1DC0, 0x1DFF), (0x20D0, 0x20F0), (0x2CEF, 0x2CF1), (0x2D7F, 0x2D7F),
    (0x2DE0, 0x2DFF), (0x302A, 0x302F), (0x3099, 0x309A), (0xA66F, 0xA672),
    (0xA674, 0xA67D), (0xA69E, 0xA69F), (0xA6F0, 0xA6F1), (0xA802, 0xA802),
    (0xA806, 0xA806), (0xA80B, 0xA80B), (0xA823, 0xA827), (0xA82C, 0xA82C),
    (0xA880, 0xA881), (0xA8B4, 0xA8C5), (0xA8E0, 0xA8F1), (0xA8FF, 0xA8FF),
    (0xA926, 0xA92D), (0xA947, 0xA953), (0xA980, 0xA983), (0xA9B3, 0xA9C0),
    (0xA9E5, 0xA9E5), (0xAA29, 0xAA36), (0xAA43, 0xAA43), (0xAA4C, 0xAA4D),
    (0xAA7B, 0xAA7D), (0xAAB0, 0xAAB0), (0xAAB2, 0xAAB4), (0xAAB7, 0xAAB8),
    (0xAABE, 0xAABF), (0xAAC1, 0xAAC1), (0xAAEB, 0xAAEF), (0xAAF5, 0xAAF6),
    (0xABE3, 0xABEA), (0xABEC, 0xABED), (0xFB1E, 0xFB1E), (0xFE00, 0xFE0F),
    (0xFE20, 0xFE2F), (0x101FD, 0x101FD), (0x102E0, 0x102E0),
    (0x10376, 0x1037A), (0x10A01, 0x10A03), (0x10A05, 0x10A06),
    (0x10A0C, 0x10A0F), (0x10A38, 0x10A3A), (0x10A3F, 0x10A3F),
    (0x10AE5, 0x10AE6), (0x10D24, 0x10D27), (0x10EAB, 0x10EAC),
    (0x10F46, 0x10F50), (0x10F82, 0x10F85), (0x11000, 0x11002),
    (0x11038, 0x11046), (0x11070, 0x11070), (0x11073, 0x11074),
    (0x1107F, 0x11082), (0x110B0, 0x110BA), (0x110C2, 0x110C2),
    (0x11100, 0x11102), (0x11127, 0x11134), (0x11145, 0x11146),
    (0x11173, 0x11173), (0x11180, 0x11182), (0x111B3, 0x111C0),
    (0x111C9, 0x111CC), (0x111CE, 0x111CF), (0x1122C, 0x11237),
    (0x1123E, 0x1123E), (0x112DF, 0x112EA), (0x11300, 0x11303),
    (0x1133B, 0x1133C), (0x1133E, 0x11344), (0x11347, 0x11348),
    (0x1134B, 0x1134D), (0x11357, 0x11357), (0x11362, 0x11363),
    (0x11366, 0x1136C), (0x11370, 0x11374), (0x11435, 0x11446),
    (0x1145E, 0x1145E), (0x114B0, 0x114C3), (0x115AF, 0x115B5),
    (0x115B8, 0x115C0), (0x115DC, 0x115DD), (0x11630, 0x11640),
    (0x116AB, 0x116B7), (0x1171D, 0x1172B), (0x1182C, 0x1183A),
    (0x11930, 0x11935), (0x11937, 0x11938), (0x1193B, 0x1193E),
    (0x11940, 0x11940), (0x11942, 0x11943), (0x119D1, 0x119D7),
    (0x119DA, 0x119E0), (0x119E4, 0x119E4), (0x11A01, 0x11A0A),
    (0x11A33, 0x11A39), (0x11A3B, 0x11A3E), (0x11A47, 0x11A47),
    (0x11A51, 0x11A5B), (0x11A8A, 0x11A99), (0x11C2F, 0x11C36),
    (0x11C38, 0x11C3F), (0x11C92, 0x11CA7), (0x11CA9, 0x11CB6),
    (0x11D31, 0x11D36), (0x11D3A, 0x11D3A), (0x11D3C, 0x11D3D),
    (0x11D3F, 0x11D45), (0x11D47, 0x11D47), (0x11D8A, 0x11D8E),
    (0x11D90, 0x11D91), (0x11D93, 0x11D97), (0x11EF3, 0x11EF6),
    (0x16AF0, 0x16AF4), (0x16B30, 0x16B36), (0x16F4F, 0x16F4F),
    (0x16F51, 0x16F87), (0x16F8F, 0x16F92), (0x16FE4, 0x16FE4),
    (0x16FF0, 0x16FF1), (0x1BC9D, 0x1BC9E), (0x1CF00, 0x1CF2D),
    (0x1CF30, 0x1CF46), (0x1D165, 0x1D169), (0x1D16D, 0x1D172),
    (0x1D17B, 0x1D182), (0x1D185, 0x1D18B), (0x1D1AA, 0x1D1AD),
    (0x1D242, 0x1D244), (0x1DA00, 0x1DA36), (0x1DA3B, 0x1DA6C),
    (0x1DA75, 0x1DA75), (0x1DA84, 0x1DA84), (0x1DA9B, 0x1DA9F),
    (0x1DAA1, 0x1DAAF), (0x1E000, 0x1E006), (0x1E008, 0x1E018),
    (0x1E01B, 0x1E021), (0x1E023, 0x1E024), (0x1E026, 0x1E02A),
    (0x1E130, 0x1E136), (0x1E2AE, 0x1E2AE), (0x1E2EC, 0x1E2EF),
    (0x1E8D0, 0x1E8D6), (0x1E944, 0x1E94A), (0xE0100, 0xE01EF)]

/-- The marks that join consonants. -/
def viramaRanges : List (Nat × Nat) :=
  [(0x94D, 0x94D), (0x9CD, 0x9CD), (0xA4D, 0xA4D), (0xACD, 0xACD),
    (0xB4D, 0xB4D), (0xBCD, 0xBCD), (0xC4D, 0xC4D), (0xCCD, 0xCCD),
    (0xD3B, 0xD3C), (0xD4D, 0xD4D), (0xDCA, 0xDCA), (0xE3A, 0xE3A),
    (0xEBA, 0xEBA), (0xF84, 0xF84), (0x1039, 0x103A), (0x1714, 0x1715),
    (0x1734, 0x1734), (0x17D2, 0x17D2), (0x1A60, 0x1A60), (0x1B44, 0x1B44),
    (0x1BAA, 0x1BAB), (0x1BF2, 0x1BF3), (0x2D7F, 0x2D7F), (0xA806, 0xA806),
    (0xA82C, 0xA82C), (0xA8C4, 0xA8C4), (0xA953, 0xA953), (0xA9C0, 0xA9C0),
    (0xAAF6, 0xAAF6), (0xABED, 0xABED), (0x10A3F, 0x10A3F),
    (0x11046, 0x11046), (0x11070, 0x11070), (0x1107F, 0x1107F),
    (0x110B9, 0x110B9), (0x11133, 0x11134), (0x111C0, 0x111C0),
    (0x11235, 0x11235), (0x112EA, 0x112EA), (0x1134D, 0x1134D),
    (0x11442, 0x11442), (0x114C2, 0x114C2), (0x115BF, 0x115BF),
    (0x1163F, 0x1163F), (0x116B6, 0x116B6), (0x1172B, 0x1172B),
    (0x11839, 0x11839), (0x1193D, 0x1193E), (0x119E0, 0x119E0),
    (0x11A34, 0x11A34), (0x11A47, 0x11A47), (0x11A99, 0x11A99),
    (0x11C3F, 0x11C3F), (0x11D44, 0x11D45), (0x11D97, 0x11D97)]

/-- The letters that join only to the one before them. -/
def joiningRightRanges : List (Nat × Nat) :=
  [(0x622, 0x625), (0x627, 0x627), (0x629, 0x629), (0x62F, 0x632),
    (0x648, 0x648), (0x671, 0x673), (0x675, 0x677), (0x688, 0x699),
    (0x6C0, 0x6C0), (0x6C3, 0x6CB), (0x6CD, 0x6CD), (0x6CF, 0x6CF),
    (0x6D2, 0x6D3), (0x6D5, 0x6D5), (0x6EE, 0x6EF), (0x710, 0x710),
    (0x715, 0x719), (0x71E, 0x71E), (0x728, 0x728), (0x72A, 0x72A),
    (0x72C, 0x72C), (0x72F, 0x72F), (0x74D, 0x74D), (0x759, 0x75B),
    (0x76B, 0x76C), (0x771, 0x771), (0x773, 0x774), (0x778, 0x779),
    (0x840, 0x840), (0x846, 0x847), (0x849, 0x849), (0x854, 0x854),
    (0x856, 0x858), (0x867, 0x867), (0x869, 0x86A), (0x870, 0x882),
    (0x88E, 0x88E), (0x8AA, 0x8AC), (0x8AE, 0x8AE), (0x8B1, 0x8B2),
    (0x8B9, 0x8B9), (0x10AC5, 0x10AC5), (0x10AC7, 0x10AC7),
    (0x10AC9, 0x10ACA), (0x10ACE, 0x10AD2), (0x10ADD, 0x10ADD),
    (0x10AE1, 0x10AE1), (0x10AE4, 0x10AE4), (0x10AEF, 0x10AEF),
    (0x10B81, 0x10B81), (0x10B83, 0x10B85), (0x10B89, 0x10B89),
    (0x10B8C, 0x10B8C), (0x10B8E, 0x10B8F), (0x10B91, 0x10B91),
    (0x10BA9, 0x10BAC), (0x10D22, 0x10D22), (0x10EC2, 0x10EC2),
    (0x10F33, 0x10F33), (0x10F54, 0x10F54), (0x10F74, 0x10F75),
    (0x10FB4, 0x10FB6), (0x10FB9, 0x10FBA), (0x10FBD, 0x10FBD),
    (0x10FC2, 0x10FC3), (0x10FC9, 0x10FC9)]

/-- The letters that join only to the one after them. -/
def joiningLeftRanges : List (Nat × Nat) :=
  [(0xA872, 0xA872), (0x10ACD, 0x10ACD), (0x10AD7, 0x10AD7),
    (0x10D00, 0x10D00), (0x10FCB, 0x10FCB)]

/-- The letters that join on both sides. -/
def joiningDualRanges : List (Nat × Nat) :=
  [(0x620, 0x620), (0x626, 0x626), (0x628, 0x628), (0x62A, 0x62E),
    (0x633, 0x63F), (0x641, 0x647), (0x649, 0x64A), (0x66E, 0x66F),
    (0x678, 0x687), (0x69A, 0x6BF), (0x6C1, 0x6C2), (0x6CC, 0x6CC),
    (0x6CE, 0x6CE), (0x6D0, 0x6D1), (0x6FA, 0x6FC), (0x6FF, 0x6FF),
    (0x712, 0x714), (0x71A, 0x71D), (0x71F, 0x727), (0x729, 0x729),
    (0x72B, 0x72B), (0x72D, 0x72E), (0x74E, 0x758), (0x75C, 0x76A),
    (0x76D, 0x770), (0x772, 0x772), (0x775, 0x777), (0x77A, 0x77F),
    (0x7CA, 0x7EA), (0x841, 0x845), (0x848, 0x848), (0x84A, 0x853),
    (0x855, 0x855), (0x860, 0x860), (0x862, 0x865), (0x868, 0x868),
    (0x886, 0x886), (0x889, 0x88D), (0x88F, 0x88F), (0x8A0, 0x8A9),
    (0x8AF, 0x8B0), (0x8B3, 0x8B8), (0x8BA, 0x8C8), (0x1807, 0x1807),
    (0x1820, 0x1878), (0x1887, 0x18A8), (0x18AA, 0x18AA), (0xA840, 0xA871),
    (0x10AC0, 0x10AC4), (0x10AD3, 0x10AD6), (0x10AD8, 0x10ADC),
    (0x10ADE, 0x10AE0), (0x10AEB, 0x10AEE), (0x10B80, 0x10B80),
    (0x10B82, 0x10B82), (0x10B86, 0x10B88), (0x10B8A, 0x10B8B),
    (0x10B8D, 0x10B8D), (0x10B90, 0x10B90), (0x10BAD, 0x10BAE),
    (0x10D01, 0x10D21), (0x10D23, 0x10D23), (0x10EC3, 0x10EC4),
    (0x10EC6, 0x10EC7), (0x10F30, 0x10F32), (0x10F34, 0x10F44),
    (0x10F51, 0x10F53), (0x10F70, 0x10F73), (0x10F76, 0x10F81),
    (0x10FB0, 0x10FB0), (0x10FB2, 0x10FB3), (0x10FB8, 0x10FB8),
    (0x10FBB, 0x10FBC), (0x10FBE, 0x10FBF), (0x10FC1, 0x10FC1),
    (0x10FC4, 0x10FC4), (0x10FCA, 0x10FCA), (0x1E900, 0x1E943)]

/-- The letters that are written from right to left, Arabic ones apart. -/
def rightToLeftRanges : List (Nat × Nat) :=
  [(0x5BE, 0x5BE), (0x5C0, 0x5C0), (0x5C3, 0x5C3), (0x5C6, 0x5C6),
    (0x5D0, 0x5EA), (0x5EF, 0x5F4), (0x7C0, 0x7EA), (0x7F4, 0x7F5),
    (0x7FA, 0x7FA), (0x7FE, 0x815), (0x81A, 0x81A), (0x824, 0x824),
    (0x828, 0x828), (0x830, 0x83E), (0x840, 0x858), (0x85E, 0x85E),
    (0x10800, 0x10805), (0x10808, 0x10808), (0x1080A, 0x10835),
    (0x10837, 0x10838), (0x1083C, 0x1083C), (0x1083F, 0x10855),
    (0x10857, 0x1089E), (0x108A7, 0x108AF), (0x108E0, 0x108F2),
    (0x108F4, 0x108F5), (0x108FB, 0x1091B), (0x10920, 0x10939),
    (0x1093F, 0x1093F), (0x10980, 0x109B7), (0x109BC, 0x109CF),
    (0x109D2, 0x10A00), (0x10A10, 0x10A13), (0x10A15, 0x10A17),
    (0x10A19, 0x10A35), (0x10A40, 0x10A48), (0x10A50, 0x10A58),
    (0x10A60, 0x10A9F), (0x10AC0, 0x10AE4), (0x10AEB, 0x10AF6),
    (0x10B00, 0x10B35), (0x10B40, 0x10B55), (0x10B58, 0x10B72),
    (0x10B78, 0x10B91), (0x10B99, 0x10B9C), (0x10BA9, 0x10BAF),
    (0x10C00, 0x10C48), (0x10CC0, 0x10CF2), (0x10CFA, 0x10CFF),
    (0x10E80, 0x10EA9), (0x10EAD, 0x10EAD), (0x10EB0, 0x10EB1),
    (0x10F00, 0x10F27), (0x10F70, 0x10F81), (0x10F86, 0x10F89),
    (0x10FB0, 0x10FCB), (0x10FE0, 0x10FF6), (0x1E800, 0x1E8C4),
    (0x1E8C7, 0x1E8CF), (0x1E922, 0x1E943), (0x1E94B, 0x1E94B),
    (0x1E950, 0x1E959), (0x1E95E, 0x1E95F)]

def arabicLetterRanges : List (Nat × Nat) :=
  [(0x608, 0x608), (0x60B, 0x60B), (0x60D, 0x60D), (0x61B, 0x61B),
    (0x61D, 0x64A), (0x66D, 0x66F), (0x671, 0x674), (0x679, 0x6D5),
    (0x6E5, 0x6E6), (0x6EE, 0x6EF), (0x6FA, 0x70D), (0x710, 0x710),
    (0x712, 0x72F), (0x74D, 0x7A5), (0x7B1, 0x7B1), (0x860, 0x86A),
    (0x870, 0x88E), (0x8A0, 0x8C9), (0xFBB2, 0xFBC2), (0xFE73, 0xFE73),
    (0x10D00, 0x10D23), (0x10F30, 0x10F45), (0x10F51, 0x10F59),
    (0x1EC71, 0x1ECB4), (0x1ED01, 0x1ED3D)]

def arabicNumberRanges : List (Nat × Nat) :=
  [(0x660, 0x669), (0x66B, 0x66C), (0x10D30, 0x10D39), (0x10E60, 0x10E7E)]

def europeanNumberRanges : List (Nat × Nat) :=
  [(0x30, 0x39), (0x6F0, 0x6F9), (0x102E1, 0x102FB)]

/-- The characters without a direction of their own, marks apart. -/
def neutralRanges : List (Nat × Nat) :=
  [(0x0, 0x2F), (0x3A, 0x40), (0x5B, 0x60), (0x7B, 0x7F), (0xA1, 0xA7),
    (0xA9, 0xA9), (0xAB, 0xAE), (0xB0, 0xB1), (0xB6, 0xB7), (0xBB, 0xBB),
    (0xBF, 0xBF), (0xD7, 0xD7), (0xF7, 0xF7), (0x2B9, 0x2BA), (0x2C2, 0x2CF),
    (0x2D2, 0x2D7), (0x2DE, 0x2DF), (0x2E5, 0x2ED), (0x2EF, 0x2FF),
    (0x375, 0x375), (0x3F6, 0x3F6), (0x58A, 0x58A), (0x58D, 0x58F),
    (0x606, 0x607), (0x609, 0x60A), (0x60C, 0x60C), (0x60E, 0x60F),
    (0x66A, 0x66A), (0x6DE, 0x6DE), (0x6E9, 0x6E9), (0x7F6, 0x7F9),
    (0x9F2, 0x9F3), (0x9FB, 0x9FB), (0xAF1, 0xAF1), (0xBF3, 0xBFA),
    (0xC78, 0xC7E), (0xE3F, 0xE3F), (0xF3A, 0xF3D), (0x1390, 0x1399),
    (0x1400, 0x1400), (0x169B, 0x169C), (0x17DB, 0x17DB), (0x17F0, 0x17F9),
    (0x1800, 0x180A), (0x180E, 0x180E), (0x1940, 0x1940), (0x1944, 0x1945),
    (0x19DE, 0x19FF), (0x200B, 0x200D), (0x2010, 0x2010), (0x2012, 0x2016),
    (0x2018, 0x2023), (0x2027, 0x2027), (0x2030, 0x2032), (0x2035, 0x2035),
    (0x2038, 0x203B), (0x203D, 0x203D), (0x203F, 0x2046), (0x204A, 0x2056),
    (0x2058, 0x205E), (0x2060, 0x2064), (0x206A, 0x206F), (0x20A0, 0x20A7),
    (0x20A9, 0x20C0), (0x2104, 0x2104), (0x2108, 0x2108), (0x2114, 0x2114),
    (0x2117, 0x2118), (0x211E, 0x211F), (0x2123, 0x2123), (0x2125, 0x2125),
    (0x2127, 0x2127), (0x2129, 0x2129), (0x212E, 0x212E), (0x213A, 0x213A),
    (0x2141, 0x2144), (0x214A, 0x214D), (0x218A, 0x218B), (0x2190, 0x222B),
    (0x222E, 0x222E), (0x2231, 0x2328), (0x232B, 0x2335), (0x237B, 0x2394),
    (0x2396, 0x2426), (0x2440, 0x244A), (0x24EB, 0x26AB), (0x26AD, 0x27FF),
    (0x2900, 0x2A0B), (0x2A0D, 0x2A73), (0x2A77, 0x2ADB), (0x2ADD, 0x2B73),
    (0x2B76, 0x2B95), (0x2B97, 0x2BFF), (0x2CE5, 0x2CEA), (0x2CF9, 0x2CFF),
    (0x2E00, 0x2E5D), (0x2E80, 0x2E99), (0x2E9B, 0x2E9E), (0x2EA0, 0x2EF2),
    (0x3001, 0x3001), (0x3003, 0x3004), (0x3008, 0x3020), (0x3030, 0x3030),
    (0x3037, 0x3037), (0x303D, 0x303F), (0x30A0, 0x30A0), (0x30FB, 0x30FB),
    (0x31C0, 0x31E3), (0x4DC0, 0x4DFF), (0xA490, 0xA4C6), (0xA60D, 0xA60F),
    (0xA673, 0xA673), (0xA67E, 0xA67F), (0xA700, 0xA721), (0xA788, 0xA788),
    (0xA828, 0xA82B), (0xA838, 0xA839), (0xA874, 0xA877), (0xAB6A, 0xAB6B),
    (0xFD3E, 0xFD4F), (0xFDCF, 0xFDCF), (0xFDFD, 0xFDFF), (0xFE45, 0xFE46),
    (0xFEFF, 0xFEFF), (0x10101, 0x10101), (0x10140, 0x1018C),
    (0x10190, 0x1019C), (0x101A0, 0x101A0), (0x1091F, 0x1091F),
    (0x10B39, 0x10B3F), (0x11052, 0x11065), (0x11660, 0x1166C),
    (0x11FD5, 0x11FF1), (0x16FE2, 0x16FE2), (0x1BCA0, 0x1BCA3),
    (0x1D173, 0x1D17A), (0x1D1E9, 0x1D1EA), (0x1D200, 0x1D241),
    (0x1D245, 0x1D245), (0x1D300, 0x1D356), (0x1E2FF, 0x1E2FF),
    (0x1EEF0, 0x1EEF1), (0x1F000, 0x1F02B), (0x1F030, 0x1F093),
    (0x1F0A0, 0x1F0AE), (0x1F0B1, 0x1F0BF), (0x1F0C1, 0x1F0CF),
    (0x1F0D1, 0x1F0F5), (0x1F10B, 0x1F10F), (0x1F12F, 0x1F12F),
    (0x1F16D, 0x1F16F), (0x1F1AD, 0x1F1AD), (0x1F260, 0x1F265),
    (0x1F300, 0x1F6D7), (0x1F6DD, 0x1F6EC), (0x1F6F0, 0x1F6FC),
    (0x1F700, 0x1F773), (0x1F780, 0x1F7D8), (0x1F7E0, 0x1F7EB),
    (0x1F7F0, 0x1F7F0), (0x1F800, 0x1F80B), (0x1F810, 0x1F847),
    (0x1F850, 0x1F859), (0x1F860, 0x1F887), (0x1F890, 0x1F8AD),
    (0x1F8B0, 0x1F8B1), (0x1F900, 0x1FA53), (0x1FA60, 0x1FA6D),
    (0x1FA70, 0x1FA74), (0x1FA78, 0x1FA7C), (0x1FA80, 0x1FA86),
    (0x1FA90, 0x1FAAC), (0x1FAB0, 0x1FABA), (0x1FAC0, 0x1FAC5),
    (0x1FAD0, 0x1FAD9), (0x1FAE0, 0x1FAE7), (0x1FAF0, 0x1FAF6),
    (0x1FB00, 0x1FB92), (0x1FB94, 0x1FBCA)]

/-- The marks that take the direction of the character before them. -/
def nonspacingRanges : List (Nat × Nat) :=
  [(0x300, 0x36F), (0x483, 0x489), (0x591, 0x5BD), (0x5BF, 0x5BF),
    (0x5C1, 0x5C2), (0x5C4, 0x5C5), (0x5C7, 0x5C7), (0x610, 0x61A),
    (0x64B, 0x65F), (0x670, 0x670), (0x6D6, 0x6DC), (0x6DF, 0x6E4),
    (0x6E7, 0x6E8), (0x6EA, 0x6ED), (0x711, 0x711), (0x730, 0x74A),
    (0x7A6, 0x7B0), (0x7EB, 0x7F3), (0x7FD, 0x7FD), (0x816, 0x819),
    (0x81B, 0x823), (0x825, 0x827), (0x829, 0x82D), (0x859, 0x85B),
    (0x898, 0x89F), (0x8CA, 0x8E1), (0x8E3, 0x902), (0x93A, 0x93A),
    (0x93C, 0x93C), (0x941, 0x948), (0x94D, 0x94D), (0x951, 0x957),
    (0x962, 0x963), (0x981, 0x981), (0x9BC, 0x9BC), (0x9C1, 0x9C4),
    (0x9CD, 0x9CD), (0x9E2, 0x9E3), (0x9FE, 0x9FE), (0xA01, 0xA02),
    (0xA3C, 0xA3C), (0xA41, 0xA42), (0xA47, 0xA48), (0xA4B, 0xA4D),
    (0xA51, 0xA51), (0xA70, 0xA71), (0xA75, 0xA75), (0xA81, 0xA82),
    (0xABC, 0xABC), (0xAC1, 0xAC5), (0xAC7, 0xAC8), (0xACD, 0xACD),
    (0xAE2, 0xAE3), (0xAFA, 0xAFF), (0xB01, 0xB01), (0xB3C, 0xB3C),
    (0xB3F, 0xB3F), (0xB41, 0xB44), (0xB4D, 0xB4D), (0xB55, 0xB56),
    (0xB62, 0xB63), (0xB82, 0xB82), (0xBC0, 0xBC0), (0xBCD, 0xBCD),
    (0xC00, 0xC00), (0xC04, 0xC04), (0xC3C, 0xC3C), (0xC3E, 0xC40),
    (0xC46, 0xC48), (0xC4A, 0xC4D), (0xC55, 0xC56), (0xC62, 0xC63),
    (0xC81, 0xC81), (0xCBC, 0xCBC), (0xCCC, 0xCCD), (0xCE2, 0xCE3),
    (0xD00, 0xD01), (0xD3B, 0xD3C), (0xD41, 0xD44), (0xD4D, 0xD4D),
    (0xD62, 0xD63), (0xD81, 0xD81), (0xDCA, 0xDCA), (0xDD2, 0xDD4),
    (0xDD6, 0xDD6), (0xE31, 0xE31), (0xE34, 0xE3A), (0xE47, 0xE4E),
    (0xEB1, 0xEB1), (0xEB4, 0xEBC), (0xEC8, 0xECD), (0xF18, 0xF19),
    (0xF35, 0xF35), (0xF37, 0xF37), (0xF39, 0xF39), (0xF71, 0xF7E),
    (0xF80, 0xF84), (0xF86, 0xF87), (0xF8D, 0xF97), (0xF99, 0xFBC),
    (0xFC6, 0xFC6), (0x102D, 0x1030), (0x1032, 0x1037), (0x1039, 0x103A),
    (0x103D, 0x103E), (0x1058, 0x1059), (0x105E, 0x1060), (0x1071, 0x1074),
    (0x1082, 0x1082), (0x1085, 0x1086), (0x108D, 0x108D), (0x109D, 0x109D),
    (0x135D, 0x135F), (0x1712, 0x1714), (0x1732, 0x1733), (0x1752, 0x1753),
    (0x1772, 0x1773), (0x17B4, 0x17B5), (0x17B7, 0x17BD), (0x17C6, 0x17C6),
    (0x17C9, 0x17D3), (0x17DD, 0x17DD), (0x180B, 0x180D), (0x180F, 0x180F),
    (0x1885, 0x1886), (0x18A9, 0x18A9), (0x1920, 0x1922), (0x1927, 0x1928),
    (0x1932, 0x1932), (0x1939, 0x193B), (0x1A17, 0x1A18), (0x1A1B, 0x1A1B),
    (0x1A56, 0x1A56), (0x1A58, 0x1A5E), (0x1A60, 0x1A60), (0x1A62, 0x1A62),
    (0x1A65, 0x1A6C), (0x1A73, 0x1A7C), (0x1A7F, 0x1A7F), (0x1AB0, 0x1ACE),
    (0x1B00, 0x1B03), (0x1B34, 0x1B34), (0x1B36, 0x1B3A), (0x1B3C, 0x1B3C),
    (0x1B42, 0x1B42), (0x1B6B, 0x1B73), (0x1B80, 0x1B81), (0x1BA2, 0x1BA5),
    (0x1BA8, 0x1BA9), (0x1BAB, 0x1BAD), (0x1BE6, 0x1BE6), (0x1BE8, 0x1BE9),
    (0x1BED, 0x1BED), (0x1BEF, 0x1BF1), (0x1C2C, 0x1C33), (0x1C36, 0x1C37),
    (0x1CD0, 0x1CD2), (0x1CD4, 0x1CE0), (0x1CE2, 0x1CE8), (0x1CED, 0x1CED),
    (0x1CF4, 0x1CF4), (0x1CF8, 0x1CF9), (0x1DC0, 0x1DFF), (0x20D0, 0x20F0),
    (0x2CEF, 0x2CF1), (0x2D7F, 0x2D7F), (0x2DE0, 0x2DFF), (0x302A, 0x302D),
    (0x3099, 0x309A), (0xA66F, 0xA672), (0xA674, 0xA67D), (0xA69E, 0xA69F),
    (0xA6F0, 0xA6F1), (0xA802, 0xA802), (0xA806, 0xA806), (0xA80B, 0xA80B),
    (0xA825, 0xA826), (0xA82C, 0xA82C), (0xA8C4, 0xA8C5), (0xA8E0, 0xA8F1),
    (0xA8FF, 0xA8FF), (0xA926, 0xA92D), (0xA947, 0xA951), (0xA980, 0xA982),
    (0xA9B3, 0xA9B3), (0xA9B6, 0xA9B9), (0xA9BC, 0xA9BD), (0xA9E5, 0xA9E5),
    (0xAA29, 0xAA2E), (0xAA31, 0xAA32), (0xAA35, 0xAA36), (0xAA43, 0xAA43),
    (0xAA4C, 0xAA4C), (0xAA7C, 0xAA7C), (0xAAB0, 0xAAB0), (0xAAB2, 0xAAB4),
    (0xAAB7, 0xAAB8), (0xAABE, 0xAABF), (0xAAC1, 0xAAC1), (0xAAEC, 0xAAED),
    (0xAAF6, 0xAAF6), (0xABE5, 0xABE5), (0xABE8, 0xABE8), (0xABED, 0xABED),
    (0xFB1E, 0xFB1E), (0xFE00, 0xFE0F), (0xFE20, 0xFE2F), (0x101FD, 0x101FD),
    (0x102E0, 0x102E0), (0x10376, 0x1037A), (0x10A01, 0x10A03),
    (0x10A05, 0x10A06), (0x10A0C, 0x10A0F), (0x10A38, 0x10A3A),
    (0x10A3F, 0x10A3F), (0x10AE5, 0x10AE6), (0x10D24, 0x10D27),
    (0x10EAB, 0x10EAC), (0x10F46, 0x10F50), (0x10F82, 0x10F85),
    (0x11001, 0x11001), (0x11038, 0x11046), (0x11070, 0x11070),
    (0x11073, 0x11074), (0x1107F, 0x11081), (0x110B3, 0x110B6),
    (0x110B9, 0x110BA), (0x110C2, 0x110C2), (0x11100, 0x11102),
    (0x11127, 0x1112B), (0x1112D, 0x11134), (0x11173, 0x11173),
    (0x11180, 0x11181), (0x111B6, 0x111BE), (0x111C9, 0x111CC),
    (0x111CF, 0x111CF), (0x1122F, 0x11231), (0x11234, 0x11234),
    (0x11236, 0x11237), (0x1123E, 0x1123E), (0x112DF, 0x112DF),
    (0x112E3, 0x112EA), (0x11300, 0x11301), (0x1133B, 0x1133C),
    (0x11340, 0x11340), (0x11366, 0x1136C), (0x11370, 0x11374),
    (0x11438, 0x1143F), (0x11442, 0x11444), (0x11446, 0x11446),
    (0x1145E, 0x1145E), (0x114B3, 0x114B8), (0x114BA, 0x114BA),
    (0x114BF, 0x114C0), (0x114C2, 0x114C3), (0x115B2, 0x115B5),
    (0x115BC, 0x115BD), (0x115BF, 0x115C0), (0x115DC, 0x115DD),
    (0x11633, 0x1163A), (0x1163D, 0x1163D), (0x1163F, 0x11640),
    (0x116AB, 0x116AB), (0x116AD, 0x116AD), (0x116B0, 0x116B5),
    (0x116B7, 0x116B7), (0x1171D, 0x1171F), (0x11722, 0x11725),
    (0x11727, 0x1172B), (0x1182F, 0x11837), (0x11839, 0x1183A),
    (0x1193B, 0x1193C), (0x1193E, 0x1193E), (0x11943, 0x11943),
    (0x119D4, 0x119D7), (0x119DA, 0x119DB), (0x119E0, 0x119E0),
    (0x11A01, 0x11A06), (0x11A09, 0x11A0A), (0x11A33, 0x11A38),
    (0x11A3B, 0x11A3E), (0x11A47, 0x11A47), (0x11A51, 0x11A56),
    (0x11A59, 0x11A5B), (0x11A8A, 0x11A96), (0x11A98, 0x11A99),
    (0x11C30, 0x11C36), (0x11C38, 0x11C3D), (0x11C92, 0x11CA7),
    (0x11CAA, 0x11CB0), (0x11CB2, 0x11CB3), (0x11CB5, 0x11CB6),
    (0x11D31, 0x11D36), (0x11D3A, 0x11D3A), (0x11D3C, 0x11D3D),
    (0x11D3F, 0x11D45), (0x11D47, 0x11D47), (0x11D90, 0x11D91),
    (0x11D95, 0x11D95), (0x11D97, 0x11D97), (0x11EF3, 0x11EF4),
    (0x16AF0, 0x16AF4), (0x16B30, 0x16B36), (0x16F4F, 0x16F4F),
    (0x16F8F, 0x16F92), (0x16FE4, 0x16FE4), (0x1BC9D, 0x1BC9E),
    (0x1CF00, 0x1CF2D), (0x1CF30, 0x1CF46), (0x1D167, 0x1D169),
    (0x1D17B, 0x1D182), (0x1D185, 0x1D18B), (0x1D1AA, 0x1D1AD),
    (0x1D242, 0x1D244), (0x1DA00, 0x1DA36), (0x1DA3B, 0x1DA6C),
    (0x1DA75, 0x1DA75), (0x1DA84, 0x1DA84), (0x1DA9B, 0x1DA9F),
    (0x1DAA1, 0x1DAAF), (0x1E000, 0x1E006), (0x1E008, 0x1E018),
    (0x1E01B, 0x1E021), (0x1E023, 0x1E024), (0x1E026, 0x1E02A),
    (0x1E130, 0x1E136), (0x1E2AE, 0x1E2AE), (0x1E2EC, 0x1E2EF),
    (0x1E8D0, 0x1E8D6), (0x1E944, 0x1E94A), (0xE0100, 0xE01EF)]

end FilterQuery.Format.Domain
