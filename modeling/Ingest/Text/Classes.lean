import Ingest.Text.Ranges

/-!
# Classes of characters

What Unicode 17 says about single characters, as far as names and words of a filter need it: which
are drawn onto others, which are letters or numbers, how letters join their neighbours, and in which
direction a character runs. Each class is a table of ranges that is searched by halves.
-/

/-! ## Marks

The characters that are drawn onto the one in front of them: general category Mark of Unicode 17. -/

namespace Ingest

/-- The marks: what has the general category of one, beyond ASCII. -/
def markRanges : CodeRanges Unit := .ofBareText "
  300-36F 483-489 591-5BD 5BF 5C1-5C2 5C4-5C5 5C7 610-61A 64B-65F 670 6D6-6DC 6DF-6E4 6E7-6E8
  6EA-6ED 711 730-74A 7A6-7B0 7EB-7F3 7FD 816-819 81B-823 825-827 829-82D 859-85B 897-89F 8CA-8E1
  8E3-903 93A-93C 93E-94F 951-957 962-963 981-983 9BC 9BE-9C4 9C7-9C8 9CB-9CD 9D7 9E2-9E3 9FE
  A01-A03 A3C A3E-A42 A47-A48 A4B-A4D A51 A70-A71 A75 A81-A83 ABC ABE-AC5 AC7-AC9 ACB-ACD AE2-AE3
  AFA-AFF B01-B03 B3C B3E-B44 B47-B48 B4B-B4D B55-B57 B62-B63 B82 BBE-BC2 BC6-BC8 BCA-BCD BD7
  C00-C04 C3C C3E-C44 C46-C48 C4A-C4D C55-C56 C62-C63 C81-C83 CBC CBE-CC4 CC6-CC8 CCA-CCD CD5-CD6
  CE2-CE3 CF3 D00-D03 D3B-D3C D3E-D44 D46-D48 D4A-D4D D57 D62-D63 D81-D83 DCA DCF-DD4 DD6 DD8-DDF
  DF2-DF3 E31 E34-E3A E47-E4E EB1 EB4-EBC EC8-ECE F18-F19 F35 F37 F39 F3E-F3F F71-F84 F86-F87
  F8D-F97 F99-FBC FC6 102B-103E 1056-1059 105E-1060 1062-1064 1067-106D 1071-1074 1082-108D 108F
  109A-109D 135D-135F 1712-1715 1732-1734 1752-1753 1772-1773 17B4-17D3 17DD 180B-180D 180F
  1885-1886 18A9 1920-192B 1930-193B 1A17-1A1B 1A55-1A5E 1A60-1A7C 1A7F 1AB0-1ADD 1AE0-1AEB
  1B00-1B04 1B34-1B44 1B6B-1B73 1B80-1B82 1BA1-1BAD 1BE6-1BF3 1C24-1C37 1CD0-1CD2 1CD4-1CE8 1CED
  1CF4 1CF7-1CF9 1DC0-1DFF 20D0-20F0 2CEF-2CF1 2D7F 2DE0-2DFF 302A-302F 3099-309A A66F-A672
  A674-A67D A69E-A69F A6F0-A6F1 A802 A806 A80B A823-A827 A82C A880-A881 A8B4-A8C5 A8E0-A8F1 A8FF
  A926-A92D A947-A953 A980-A983 A9B3-A9C0 A9E5 AA29-AA36 AA43 AA4C-AA4D AA7B-AA7D AAB0 AAB2-AAB4
  AAB7-AAB8 AABE-AABF AAC1 AAEB-AAEF AAF5-AAF6 ABE3-ABEA ABEC-ABED FB1E FE00-FE0F FE20-FE2F 101FD
  102E0 10376-1037A 10A01-10A03 10A05-10A06 10A0C-10A0F 10A38-10A3A 10A3F 10AE5-10AE6 10D24-10D27
  10D69-10D6D 10EAB-10EAC 10EFA-10EFF 10F46-10F50 10F82-10F85 11000-11002 11038-11046 11070
  11073-11074 1107F-11082 110B0-110BA 110C2 11100-11102 11127-11134 11145-11146 11173 11180-11182
  111B3-111C0 111C9-111CC 111CE-111CF 1122C-11237 1123E 11241 112DF-112EA 11300-11303 1133B-1133C
  1133E-11344 11347-11348 1134B-1134D 11357 11362-11363 11366-1136C 11370-11374 113B8-113C0 113C2
  113C5 113C7-113CA 113CC-113D0 113D2 113E1-113E2 11435-11446 1145E 114B0-114C3 115AF-115B5
  115B8-115C0 115DC-115DD 11630-11640 116AB-116B7 1171D-1172B 1182C-1183A 11930-11935 11937-11938
  1193B-1193E 11940 11942-11943 119D1-119D7 119DA-119E0 119E4 11A01-11A0A 11A33-11A39 11A3B-11A3E
  11A47 11A51-11A5B 11A8A-11A99 11B60-11B67 11C2F-11C36 11C38-11C3F 11C92-11CA7 11CA9-11CB6
  11D31-11D36 11D3A 11D3C-11D3D 11D3F-11D45 11D47 11D8A-11D8E 11D90-11D91 11D93-11D97 11EF3-11EF6
  11F00-11F01 11F03 11F34-11F3A 11F3E-11F42 11F5A 13440 13447-13455 1611E-1612F 16AF0-16AF4
  16B30-16B36 16F4F 16F51-16F87 16F8F-16F92 16FE4 16FF0-16FF1 1BC9D-1BC9E 1CF00-1CF2D 1CF30-1CF46
  1D165-1D169 1D16D-1D172 1D17B-1D182 1D185-1D18B 1D1AA-1D1AD 1D242-1D244 1DA00-1DA36 1DA3B-1DA6C
  1DA75 1DA84 1DA9B-1DA9F 1DAA1-1DAAF 1E000-1E006 1E008-1E018 1E01B-1E021 1E023-1E024 1E026-1E02A
  1E08F 1E130-1E136 1E2AE 1E2EC-1E2EF 1E4EC-1E4EF 1E5EE-1E5EF 1E6E3 1E6E6 1E6EE-1E6EF 1E6F5
  1E8D0-1E8D6 1E944-1E94A E0100-E01EF"

/-- **Whether a character is a mark.** No character of ASCII is one. -/
def isMark (c : Char) : Bool := 0x80 ≤ c.toNat && markRanges.covers c

/-! ## Letters and numbers

The characters that are alphabetic or numeric: the property Alphabetic and the general category
Number of Unicode 17. -/

/-- The letters and numbers beyond ASCII, by the properties Alphabetic and Numeric. -/
def alphanumericRanges : CodeRanges Unit := .ofBareText "
  AA B2-B3 B5 B9-BA BC-BE C0-D6 D8-F6 F8-2C1 2C6-2D1 2E0-2E4 2EC 2EE 345 363-374 376-377 37A-37D
  37F 386 388-38A 38C 38E-3A1 3A3-3F5 3F7-481 48A-52F 531-556 559 560-588 5B0-5BD 5BF 5C1-5C2
  5C4-5C5 5C7 5D0-5EA 5EF-5F2 610-61A 620-657 659-669 66E-6D3 6D5-6DC 6E1-6E8 6ED-6FC 6FF 710-73F
  74D-7B1 7C0-7EA 7F4-7F5 7FA 800-817 81A-82C 840-858 860-86A 870-887 889-88F 897 8A0-8C9 8D4-8DF
  8E3-8E9 8F0-93B 93D-94C 94E-950 955-963 966-96F 971-983 985-98C 98F-990 993-9A8 9AA-9B0 9B2
  9B6-9B9 9BD-9C4 9C7-9C8 9CB-9CC 9CE 9D7 9DC-9DD 9DF-9E3 9E6-9F1 9F4-9F9 9FC A01-A03 A05-A0A
  A0F-A10 A13-A28 A2A-A30 A32-A33 A35-A36 A38-A39 A3E-A42 A47-A48 A4B-A4C A51 A59-A5C A5E A66-A75
  A81-A83 A85-A8D A8F-A91 A93-AA8 AAA-AB0 AB2-AB3 AB5-AB9 ABD-AC5 AC7-AC9 ACB-ACC AD0 AE0-AE3
  AE6-AEF AF9-AFC B01-B03 B05-B0C B0F-B10 B13-B28 B2A-B30 B32-B33 B35-B39 B3D-B44 B47-B48 B4B-B4C
  B56-B57 B5C-B5D B5F-B63 B66-B6F B71-B77 B82-B83 B85-B8A B8E-B90 B92-B95 B99-B9A B9C B9E-B9F
  BA3-BA4 BA8-BAA BAE-BB9 BBE-BC2 BC6-BC8 BCA-BCC BD0 BD7 BE6-BF2 C00-C0C C0E-C10 C12-C28 C2A-C39
  C3D-C44 C46-C48 C4A-C4C C55-C56 C58-C5A C5C-C5D C60-C63 C66-C6F C78-C7E C80-C83 C85-C8C C8E-C90
  C92-CA8 CAA-CB3 CB5-CB9 CBD-CC4 CC6-CC8 CCA-CCC CD5-CD6 CDC-CDE CE0-CE3 CE6-CEF CF1-CF3 D00-D0C
  D0E-D10 D12-D3A D3D-D44 D46-D48 D4A-D4C D4E D54-D63 D66-D78 D7A-D7F D81-D83 D85-D96 D9A-DB1
  DB3-DBB DBD DC0-DC6 DCF-DD4 DD6 DD8-DDF DE6-DEF DF2-DF3 E01-E3A E40-E46 E4D E50-E59 E81-E82 E84
  E86-E8A E8C-EA3 EA5 EA7-EB9 EBB-EBD EC0-EC4 EC6 ECD ED0-ED9 EDC-EDF F00 F20-F33 F40-F47 F49-F6C
  F71-F83 F88-F97 F99-FBC 1000-1036 1038 103B-1049 1050-109D 10A0-10C5 10C7 10CD 10D0-10FA
  10FC-1248 124A-124D 1250-1256 1258 125A-125D 1260-1288 128A-128D 1290-12B0 12B2-12B5 12B8-12BE
  12C0 12C2-12C5 12C8-12D6 12D8-1310 1312-1315 1318-135A 1369-137C 1380-138F 13A0-13F5 13F8-13FD
  1401-166C 166F-167F 1681-169A 16A0-16EA 16EE-16F8 1700-1713 171F-1733 1740-1753 1760-176C
  176E-1770 1772-1773 1780-17B3 17B6-17C8 17D7 17DC 17E0-17E9 17F0-17F9 1810-1819 1820-1878
  1880-18AA 18B0-18F5 1900-191E 1920-192B 1930-1938 1946-196D 1970-1974 1980-19AB 19B0-19C9
  19D0-19DA 1A00-1A1B 1A20-1A5E 1A61-1A74 1A80-1A89 1A90-1A99 1AA7 1ABF-1AC0 1ACC-1ACE 1B00-1B33
  1B35-1B43 1B45-1B4C 1B50-1B59 1B80-1BA9 1BAC-1BE5 1BE7-1BF1 1C00-1C36 1C40-1C49 1C4D-1C7D
  1C80-1C8A 1C90-1CBA 1CBD-1CBF 1CE9-1CEC 1CEE-1CF3 1CF5-1CF6 1CFA 1D00-1DBF 1DD3-1DF4 1E00-1F15
  1F18-1F1D 1F20-1F45 1F48-1F4D 1F50-1F57 1F59 1F5B 1F5D 1F5F-1F7D 1F80-1FB4 1FB6-1FBC 1FBE
  1FC2-1FC4 1FC6-1FCC 1FD0-1FD3 1FD6-1FDB 1FE0-1FEC 1FF2-1FF4 1FF6-1FFC 2070-2071 2074-2079
  207F-2089 2090-209C 2102 2107 210A-2113 2115 2119-211D 2124 2126 2128 212A-212D 212F-2139
  213C-213F 2145-2149 214E 2150-2189 2460-249B 24B6-24FF 2776-2793 2C00-2CE4 2CEB-2CEE 2CF2-2CF3
  2CFD 2D00-2D25 2D27 2D2D 2D30-2D67 2D6F 2D80-2D96 2DA0-2DA6 2DA8-2DAE 2DB0-2DB6 2DB8-2DBE
  2DC0-2DC6 2DC8-2DCE 2DD0-2DD6 2DD8-2DDE 2DE0-2DFF 2E2F 3005-3007 3021-3029 3031-3035 3038-303C
  3041-3096 309D-309F 30A1-30FA 30FC-30FF 3105-312F 3131-318E 3192-3195 31A0-31BF 31F0-31FF
  3220-3229 3248-324F 3251-325F 3280-3289 32B1-32BF 3400-4DBF 4E00-A48C A4D0-A4FD A500-A60C
  A610-A62B A640-A66E A674-A67B A67F-A6EF A717-A71F A722-A788 A78B-A7DC A7F1-A805 A807-A827
  A830-A835 A840-A873 A880-A8C3 A8C5 A8D0-A8D9 A8F2-A8F7 A8FB A8FD-A92A A930-A952 A960-A97C
  A980-A9B2 A9B4-A9BF A9CF-A9D9 A9E0-A9FE AA00-AA36 AA40-AA4D AA50-AA59 AA60-AA76 AA7A-AABE AAC0
  AAC2 AADB-AADD AAE0-AAEF AAF2-AAF5 AB01-AB06 AB09-AB0E AB11-AB16 AB20-AB26 AB28-AB2E AB30-AB5A
  AB5C-AB69 AB70-ABEA ABF0-ABF9 AC00-D7A3 D7B0-D7C6 D7CB-D7FB F900-FA6D FA70-FAD9 FB00-FB06
  FB13-FB17 FB1D-FB28 FB2A-FB36 FB38-FB3C FB3E FB40-FB41 FB43-FB44 FB46-FBB1 FBD3-FD3D FD50-FD8F
  FD92-FDC7 FDF0-FDFB FE70-FE74 FE76-FEFC FF10-FF19 FF21-FF3A FF41-FF5A FF66-FFBE FFC2-FFC7
  FFCA-FFCF FFD2-FFD7 FFDA-FFDC 10000-1000B 1000D-10026 10028-1003A 1003C-1003D 1003F-1004D
  10050-1005D 10080-100FA 10107-10133 10140-10178 1018A-1018B 10280-1029C 102A0-102D0 102E1-102FB
  10300-10323 1032D-1034A 10350-1037A 10380-1039D 103A0-103C3 103C8-103CF 103D1-103D5 10400-1049D
  104A0-104A9 104B0-104D3 104D8-104FB 10500-10527 10530-10563 10570-1057A 1057C-1058A 1058C-10592
  10594-10595 10597-105A1 105A3-105B1 105B3-105B9 105BB-105BC 105C0-105F3 10600-10736 10740-10755
  10760-10767 10780-10785 10787-107B0 107B2-107BA 10800-10805 10808 1080A-10835 10837-10838 1083C
  1083F-10855 10858-10876 10879-1089E 108A7-108AF 108E0-108F2 108F4-108F5 108FB-1091B 10920-10939
  10940-10959 10980-109B7 109BC-109CF 109D2-10A03 10A05-10A06 10A0C-10A13 10A15-10A17 10A19-10A35
  10A40-10A48 10A60-10A7E 10A80-10A9F 10AC0-10AC7 10AC9-10AE4 10AEB-10AEF 10B00-10B35 10B40-10B55
  10B58-10B72 10B78-10B91 10BA9-10BAF 10C00-10C48 10C80-10CB2 10CC0-10CF2 10CFA-10D27 10D30-10D39
  10D40-10D65 10D69 10D6F-10D85 10E60-10E7E 10E80-10EA9 10EAB-10EAC 10EB0-10EB1 10EC2-10EC7
  10EFA-10EFC 10F00-10F27 10F30-10F45 10F51-10F54 10F70-10F81 10FB0-10FCB 10FE0-10FF6 11000-11045
  11052-1106F 11071-11075 11080-110B8 110C2 110D0-110E8 110F0-110F9 11100-11132 11136-1113F
  11144-11147 11150-11172 11176 11180-111BF 111C1-111C4 111CE-111DA 111DC 111E1-111F4 11200-11211
  11213-11234 11237 1123E-11241 11280-11286 11288 1128A-1128D 1128F-1129D 1129F-112A8 112B0-112E8
  112F0-112F9 11300-11303 11305-1130C 1130F-11310 11313-11328 1132A-11330 11332-11333 11335-11339
  1133D-11344 11347-11348 1134B-1134C 11350 11357 1135D-11363 11380-11389 1138B 1138E 11390-113B5
  113B7-113C0 113C2 113C5 113C7-113CA 113CC-113CD 113D1 113D3 11400-11441 11443-11445 11447-1144A
  11450-11459 1145F-11461 11480-114C1 114C4-114C5 114C7 114D0-114D9 11580-115B5 115B8-115BE
  115D8-115DD 11600-1163E 11640 11644 11650-11659 11680-116B5 116B8 116C0-116C9 116D0-116E3
  11700-1171A 1171D-1172A 11730-1173B 11740-11746 11800-11838 118A0-118F2 118FF-11906 11909
  1190C-11913 11915-11916 11918-11935 11937-11938 1193B-1193C 1193F-11942 11950-11959 119A0-119A7
  119AA-119D7 119DA-119DF 119E1 119E3-119E4 11A00-11A32 11A35-11A3E 11A50-11A97 11A9D 11AB0-11AF8
  11B60-11B67 11BC0-11BE0 11BF0-11BF9 11C00-11C08 11C0A-11C36 11C38-11C3E 11C40 11C50-11C6C
  11C72-11C8F 11C92-11CA7 11CA9-11CB6 11D00-11D06 11D08-11D09 11D0B-11D36 11D3A 11D3C-11D3D
  11D3F-11D41 11D43 11D46-11D47 11D50-11D59 11D60-11D65 11D67-11D68 11D6A-11D8E 11D90-11D91
  11D93-11D96 11D98 11DA0-11DA9 11DB0-11DDB 11DE0-11DE9 11EE0-11EF6 11F00-11F10 11F12-11F3A
  11F3E-11F40 11F50-11F59 11FB0 11FC0-11FD4 12000-12399 12400-1246E 12480-12543 12F90-12FF0
  13000-1342F 13441-13446 13460-143FA 14400-14646 16100-1612E 16130-16139 16800-16A38 16A40-16A5E
  16A60-16A69 16A70-16ABE 16AC0-16AC9 16AD0-16AED 16B00-16B2F 16B40-16B43 16B50-16B59 16B5B-16B61
  16B63-16B77 16B7D-16B8F 16D40-16D6C 16D70-16D79 16E40-16E96 16EA0-16EB8 16EBB-16ED3 16F00-16F4A
  16F4F-16F87 16F8F-16F9F 16FE0-16FE1 16FE3 16FF0-16FF6 17000-18CD5 18CFF-18D1E 18D80-18DF2
  1AFF0-1AFF3 1AFF5-1AFFB 1AFFD-1AFFE 1B000-1B122 1B132 1B150-1B152 1B155 1B164-1B167 1B170-1B2FB
  1BC00-1BC6A 1BC70-1BC7C 1BC80-1BC88 1BC90-1BC99 1BC9E 1CCF0-1CCF9 1D2C0-1D2D3 1D2E0-1D2F3
  1D360-1D378 1D400-1D454 1D456-1D49C 1D49E-1D49F 1D4A2 1D4A5-1D4A6 1D4A9-1D4AC 1D4AE-1D4B9 1D4BB
  1D4BD-1D4C3 1D4C5-1D505 1D507-1D50A 1D50D-1D514 1D516-1D51C 1D51E-1D539 1D53B-1D53E 1D540-1D544
  1D546 1D54A-1D550 1D552-1D6A5 1D6A8-1D6C0 1D6C2-1D6DA 1D6DC-1D6FA 1D6FC-1D714 1D716-1D734
  1D736-1D74E 1D750-1D76E 1D770-1D788 1D78A-1D7A8 1D7AA-1D7C2 1D7C4-1D7CB 1D7CE-1D7FF 1DF00-1DF1E
  1DF25-1DF2A 1E000-1E006 1E008-1E018 1E01B-1E021 1E023-1E024 1E026-1E02A 1E030-1E06D 1E08F
  1E100-1E12C 1E137-1E13D 1E140-1E149 1E14E 1E290-1E2AD 1E2C0-1E2EB 1E2F0-1E2F9 1E4D0-1E4EB
  1E4F0-1E4F9 1E5D0-1E5ED 1E5F0-1E5FA 1E6C0-1E6DE 1E6E0-1E6F5 1E6FE-1E6FF 1E7E0-1E7E6 1E7E8-1E7EB
  1E7ED-1E7EE 1E7F0-1E7FE 1E800-1E8C4 1E8C7-1E8CF 1E900-1E943 1E947 1E94B 1E950-1E959 1EC71-1ECAB
  1ECAD-1ECAF 1ECB1-1ECB4 1ED01-1ED2D 1ED2F-1ED3D 1EE00-1EE03 1EE05-1EE1F 1EE21-1EE22 1EE24 1EE27
  1EE29-1EE32 1EE34-1EE37 1EE39 1EE3B 1EE42 1EE47 1EE49 1EE4B 1EE4D-1EE4F 1EE51-1EE52 1EE54 1EE57
  1EE59 1EE5B 1EE5D 1EE5F 1EE61-1EE62 1EE64 1EE67-1EE6A 1EE6C-1EE72 1EE74-1EE77 1EE79-1EE7C 1EE7E
  1EE80-1EE89 1EE8B-1EE9B 1EEA1-1EEA3 1EEA5-1EEA9 1EEAB-1EEBB 1F100-1F10C 1F130-1F149 1F150-1F169
  1F170-1F189 1FBF0-1FBF9 20000-2A6DF 2A700-2B81D 2B820-2CEAD 2CEB0-2EBE0 2EBF0-2EE5D 2F800-2FA1D
  30000-3134A 31350-33479"

/-- **Whether a character is a letter or a number**, of any script. -/
def isAlphanumeric (c : Char) : Bool := c.isAlphanum || alphanumericRanges.covers c

/-! ## Joining

How the letters of a cursive script join their neighbours: the joining types of Unicode 17. Where
letters would join, an invisible character can keep them apart. -/

/-- **How a letter joins its neighbours.** The sides are told in the order of the text, not by left
and right. -/
inductive Joining where
  /-- On both sides. -/
  | dual
  /-- With the letter behind it. -/
  | behind
  /-- With the letter in front of it. -/
  | inFront
  /-- Not at all, but letters join across it. -/
  | transparent
  deriving DecidableEq, Repr

namespace Joining

/-- The joining behind a range of the table. -/
def ofWordEnd : List Char → Joining
  | [':', 'D'] => .dual
  | [':', 'L'] => .behind
  | [':', 'R'] => .inFront
  | _ => .transparent

/-- The characters that join, or that letters join across. -/
def ranges : CodeRanges Joining := .ofText ofWordEnd "
  300-36F:T 483-489:T 591-5BD:T 5BF:T 5C1-5C2:T 5C4-5C5:T 5C7:T 610-61A:T 620:D 622-625:R 626:D
  627:R 628:D 629:R 62A-62E:D 62F-632:R 633-63F:D 641-647:D 648:R 649-64A:D 64B-65F:T 66E-66F:D
  670:T 671-673:R 679-687:D 688-699:R 69A-6BF:D 6C0:R 6C1-6C2:D 6C3-6CB:R 6CC:D 6CD:R 6CE:D 6CF:R
  6D0-6D1:D 6D2-6D3:R 6D5:R 6D6-6DC:T 6DF-6E4:T 6E7-6E8:T 6EA-6ED:T 6EE-6EF:R 6FA-6FC:D 6FF:D 710:R
  711:T 712-714:D 715-719:R 71A-71D:D 71E:R 71F-727:D 728:R 729:D 72A:R 72B:D 72C:R 72D-72E:D 72F:R
  730-74A:T 74D:R 74E-758:D 759-75B:R 75C-76A:D 76B-76C:R 76D-770:D 771:R 772:D 773-774:R 775-777:D
  778-779:R 77A-77F:D 7A6-7B0:T 7CA-7EA:D 7EB-7F3:T 7FD:T 816-819:T 81B-823:T 825-827:T 829-82D:T
  840:R 841-845:D 846-847:R 848:D 849:R 84A-853:D 854:R 855:D 856-858:R 859-85B:T 860:D 862-865:D
  867:R 868:D 869-882:R 886:D 889-88D:D 88E:R 88F:D 897-89F:T 8A0-8A9:D 8AA-8AC:R 8AE:R 8AF-8B0:D
  8B1-8B2:R 8B3-8B8:D 8B9:R 8BA-8C8:D 8CA-902:T 93A:T 93C:T 941-948:T 94D:T 951-957:T 962-963:T
  981:T 9BC:T 9C1-9C4:T 9CD:T 9E2-9E3:T 9FE-A02:T A3C:T A41-A51:T A70-A71:T A75:T A81-A82:T ABC:T
  AC1-AC8:T ACD:T AE2-AE3:T AFA-B01:T B3C:T B3F:T B41-B44:T B4D-B56:T B62-B63:T B82:T BC0:T BCD:T
  C00:T C04:T C3C:T C3E-C40:T C46-C56:T C62-C63:T C81:T CBC:T CBF:T CC6:T CCC-CCD:T CE2-CE3:T
  D00-D01:T D3B-D3C:T D41-D44:T D4D:T D62-D63:T D81:T DCA:T DD2-DD6:T E31:T E34-E3A:T E47-E4E:T
  EB1:T EB4-EBC:T EC8-ECE:T F18-F19:T F35:T F37:T F39:T F71-F7E:T F80-F84:T F86-F87:T F8D-FBC:T
  FC6:T 102D-1030:T 1032-1037:T 1039-103A:T 103D-103E:T 1058-1059:T 105E-1060:T 1071-1074:T 1082:T
  1085-1086:T 108D:T 109D:T 135D-135F:T 1712-1714:T 1732-1733:T 1752-1753:T 1772-1773:T 17B7-17BD:T
  17C6:T 17C9-17D3:T 17DD:T 1807:D 1820-1878:D 1885-1886:T 1887-18A8:D 18A9:T 18AA:D 1920-1922:T
  1927-1928:T 1932:T 1939-193B:T 1A17-1A18:T 1A1B:T 1A56:T 1A58-1A60:T 1A62:T 1A65-1A6C:T
  1A73-1A7F:T 1AB0-1B03:T 1B34:T 1B36-1B3A:T 1B3C:T 1B42:T 1B6B-1B73:T 1B80-1B81:T 1BA2-1BA5:T
  1BA8-1BA9:T 1BAB-1BAD:T 1BE6:T 1BE8-1BE9:T 1BED:T 1BEF-1BF1:T 1C2C-1C33:T 1C36-1C37:T 1CD0-1CD2:T
  1CD4-1CE0:T 1CE2-1CE8:T 1CED:T 1CF4:T 1CF8-1CF9:T 1DC0-1DFF:T 20D0-20F0:T 2CEF-2CF1:T 2D7F:T
  2DE0-2DFF:T 302A-302D:T 3099-309A:T A66F-A672:T A674-A67D:T A69E-A69F:T A6F0-A6F1:T A802:T A806:T
  A80B:T A825-A826:T A82C:T A840-A871:D A872:L A8C4-A8C5:T A8E0-A8F1:T A8FF:T A926-A92D:T
  A947-A951:T A980-A982:T A9B3:T A9B6-A9B9:T A9BC-A9BD:T A9E5:T AA29-AA2E:T AA31-AA32:T AA35-AA36:T
  AA43:T AA4C:T AA7C:T AAB0:T AAB2-AAB4:T AAB7-AAB8:T AABE-AABF:T AAC1:T AAEC-AAED:T AAF6:T ABE5:T
  ABE8:T ABED:T FB1E:T FE20-FE2F:T 101FD:T 102E0:T 10376-1037A:T 10A01-10A0F:T 10A38-10A3F:T
  10AC0-10AC4:D 10AC5:R 10AC7:R 10AC9-10ACA:R 10ACD:L 10ACE-10AD2:R 10AD3-10AD6:D 10AD7:L
  10AD8-10ADC:D 10ADD:R 10ADE-10AE0:D 10AE1:R 10AE4:R 10AE5-10AE6:T 10AEB-10AEE:D 10AEF:R 10B80:D
  10B81:R 10B82:D 10B83-10B85:R 10B86-10B88:D 10B89:R 10B8A-10B8B:D 10B8C:R 10B8D:D 10B8E-10B8F:R
  10B90:D 10B91:R 10BA9-10BAC:R 10BAD-10BAE:D 10D00:L 10D01-10D21:D 10D22:R 10D23:D 10D24-10D27:T
  10D69-10D6D:T 10EAB-10EAC:T 10EC2:R 10EC3-10EC4:D 10EC6-10EC7:D 10EFA-10EFF:T 10F30-10F32:D
  10F33:R 10F34-10F44:D 10F46-10F50:T 10F51-10F53:D 10F54:R 10F70-10F73:D 10F74-10F75:R
  10F76-10F81:D 10F82-10F85:T 10FB0:D 10FB2-10FB3:D 10FB4-10FB6:R 10FB8:D 10FB9-10FBA:R
  10FBB-10FBC:D 10FBD:R 10FBE-10FBF:D 10FC1:D 10FC2-10FC3:R 10FC4:D 10FC9:R 10FCA:D 10FCB:L 11001:T
  11038-11046:T 11070:T 11073-11074:T 1107F-11081:T 110B3-110B6:T 110B9-110BA:T 110C2:T
  11100-11102:T 11127-1112B:T 1112D-11134:T 11173:T 11180-11181:T 111B6-111BE:T 111C9-111CC:T
  111CF:T 1122F-11231:T 11234:T 11236-11237:T 1123E:T 11241:T 112DF:T 112E3-112EA:T 11300-11301:T
  1133B-1133C:T 11340:T 11366-11374:T 113BB-113C0:T 113CE:T 113D0:T 113D2:T 113E1-113E2:T
  11438-1143F:T 11442-11444:T 11446:T 1145E:T 114B3-114B8:T 114BA:T 114BF-114C0:T 114C2-114C3:T
  115B2-115B5:T 115BC-115BD:T 115BF-115C0:T 115DC-115DD:T 11633-1163A:T 1163D:T 1163F-11640:T
  116AB:T 116AD:T 116B0-116B5:T 116B7:T 1171D:T 1171F:T 11722-11725:T 11727-1172B:T 1182F-11837:T
  11839-1183A:T 1193B-1193C:T 1193E:T 11943:T 119D4-119DB:T 119E0:T 11A01-11A0A:T 11A33-11A38:T
  11A3B-11A3E:T 11A47:T 11A51-11A56:T 11A59-11A5B:T 11A8A-11A96:T 11A98-11A99:T 11B60:T
  11B62-11B64:T 11B66:T 11C30-11C3D:T 11C3F:T 11C92-11CA7:T 11CAA-11CB0:T 11CB2-11CB3:T
  11CB5-11CB6:T 11D31-11D45:T 11D47:T 11D90-11D91:T 11D95:T 11D97:T 11EF3-11EF4:T 11F00-11F01:T
  11F36-11F3A:T 11F40:T 11F42:T 11F5A:T 13440:T 13447-13455:T 1611E-16129:T 1612D-1612F:T
  16AF0-16AF4:T 16B30-16B36:T 16F4F:T 16F8F-16F92:T 16FE4:T 1BC9D-1BC9E:T 1CF00-1CF46:T
  1D167-1D169:T 1D17B-1D182:T 1D185-1D18B:T 1D1AA-1D1AD:T 1D242-1D244:T 1DA00-1DA36:T 1DA3B-1DA6C:T
  1DA75:T 1DA84:T 1DA9B-1DAAF:T 1E000-1E08F:T 1E130-1E136:T 1E2AE:T 1E2EC-1E2EF:T 1E4EC-1E4EF:T
  1E5EE-1E5EF:T 1E6E3:T 1E6E6:T 1E6EE-1E6EF:T 1E6F5:T 1E8D0-1E8D6:T 1E922-1E943:D 1E944-1E94B:T"

/-- How a character joins, if it does. Most characters do not, and letters do not join across
them. -/
def ofChar? (c : Char) : Option Joining := ranges.find? c.toNat

/-- Whether it joins the letter behind it. -/
def joinsBehind (j : Joining) : Bool := j = .dual || j = .behind

/-- Whether it joins the letter in front of it. -/
def joinsInFront (j : Joining) : Bool := j = .dual || j = .inFront

end Joining

/-! ## Directions

Whether a character runs from left to right or from right to left, or goes with what surrounds it:
the bidirectional classes of Unicode 17, as far as a name in one line needs them. Letters from right
to left count as one class, and so do separators, signs and all else that has no direction. The
table tells apart only characters that may stand in a domain name. -/

/-- **The direction of a character**, as far as names of hosts need it. Kinds that the rules for
names do not tell apart are one here. -/
inductive Direction where
  | leftToRight
  | rightToLeft
  /-- A digit that runs from left to right within either direction. -/
  | digit
  /-- A digit of the Arabic script. -/
  | arabicDigit
  /-- A mark, which goes with the character in front of it. -/
  | mark
  | neutral
  deriving DecidableEq, Repr

namespace Direction

/-- The direction behind a range of the table. -/
def ofWordEnd : List Char → Direction
  | [':', 'r'] => .rightToLeft
  | [':', 'e'] => .digit
  | [':', 'a'] => .arabicDigit
  | [':', 'm'] => .mark
  | _ => .neutral

/-- The directions beyond ASCII, other than from left to right. -/
def ranges : CodeRanges Direction := .ofText ofWordEnd "
  80-D7:o F7:o 2B9-2BA:o 2C2-2CF:o 2D2-2ED:o 2EF-2FF:o 300-36F:m 375:o 3F6:o 483-489:m 58A-58F:o
  591-5BD:m 5BE:r 5BF:m 5C0:r 5C1-5C2:m 5C3:r 5C4-5C5:m 5C6:r 5C7:m 5D0-5F4:r 606-607:o 608:r
  609-60A:o 60B:r 60C:o 60D:r 60E-60F:o 610-61A:m 61B-64A:r 64B-65F:m 660-669:a 66A:o 66B-66C:a
  66D-66F:r 670:m 671-6D5:r 6D6-6DC:m 6DE:o 6DF-6E4:m 6E5-6E6:r 6E7-6E8:m 6E9:o 6EA-6ED:m 6EE-6EF:r
  6F0-6F9:e 6FA-710:r 711:m 712-72F:r 730-74A:m 74D-7A5:r 7A6-7B0:m 7B1-7EA:r 7EB-7F3:m 7F4-7F5:r
  7F6-7F9:o 7FA:r 7FD:m 7FE-815:r 816-819:m 81A:r 81B-823:m 824:r 825-827:m 828:r 829-82D:m
  830-858:r 859-85B:m 85E-88F:r 897-89F:m 8A0-8C9:r 8CA-902:m 93A:m 93C:m 941-948:m 94D:m 951-957:m
  962-963:m 981:m 9BC:m 9C1-9C4:m 9CD:m 9E2-9E3:m 9F2-9F3:o 9FB:o 9FE-A02:m A3C:m A41-A51:m
  A70-A71:m A75:m A81-A82:m ABC:m AC1-AC8:m ACD:m AE2-AE3:m AF1:o AFA-B01:m B3C:m B3F:m B41-B44:m
  B4D-B56:m B62-B63:m B82:m BC0:m BCD:m BF3-BFA:o C00:m C04:m C3C:m C3E-C40:m C46-C56:m C62-C63:m
  C78-C7E:o C81:m CBC:m CCC-CCD:m CE2-CE3:m D00-D01:m D3B-D3C:m D41-D44:m D4D:m D62-D63:m D81:m
  DCA:m DD2-DD6:m E31:m E34-E3A:m E3F:o E47-E4E:m EB1:m EB4-EBC:m EC8-ECE:m F18-F19:m F35:m F37:m
  F39:m F3A-F3D:o F71-F7E:m F80-F84:m F86-F87:m F8D-FBC:m FC6:m 102D-1030:m 1032-1037:m 1039-103A:m
  103D-103E:m 1058-1059:m 105E-1060:m 1071-1074:m 1082:m 1085-1086:m 108D:m 109D:m 135D-135F:m
  1390-1399:o 1400:o 169B-169C:o 1712-1714:m 1732-1733:m 1752-1753:m 1772-1773:m 17B7-17BD:m 17C6:m
  17C9-17D3:m 17DB:o 17DD:m 17F0-180A:o 1885-1886:m 18A9:m 1920-1922:m 1927-1928:m 1932:m
  1939-193B:m 1940-1945:o 19DE-19FF:o 1A17-1A18:m 1A1B:m 1A56:m 1A58-1A60:m 1A62:m 1A65-1A6C:m
  1A73-1A7F:m 1AB0-1B03:m 1B34:m 1B36-1B3A:m 1B3C:m 1B42:m 1B6B-1B73:m 1B80-1B81:m 1BA2-1BA5:m
  1BA8-1BA9:m 1BAB-1BAD:m 1BE6:m 1BE8-1BE9:m 1BED:m 1BEF-1BF1:m 1C2C-1C33:m 1C36-1C37:m 1CD0-1CD2:m
  1CD4-1CE0:m 1CE2-1CE8:m 1CED:m 1CF4:m 1CF8-1CF9:m 1DC0-1DFF:m 200C-20C1:o 20D0-20F0:m 2104-214D:o
  218A-2335:o 237B-2394:o 2396-26AB:o 26AD-27FF:o 2900-2BFF:o 2CE5-2CEA:o 2CEF-2CF1:m 2CF9-2CFF:o
  2D7F:m 2DE0-2DFF:m 2E00-3004:o 3008-3020:o 302A-302D:m 3030:o 3037:o 303D-303F:o 3099-309A:m
  30A0:o 30FB:o 31C0-31E5:o 4DC0-4DFF:o A490-A4C6:o A60D-A60F:o A66F-A672:m A673:o A674-A67D:m
  A67E-A67F:o A69E-A69F:m A6F0-A6F1:m A700-A721:o A788:o A802:m A806:m A80B:m A825-A826:m
  A828-A82B:o A82C:m A838-A839:o A874-A877:o A8C4-A8C5:m A8E0-A8F1:m A8FF:m A926-A92D:m A947-A951:m
  A980-A982:m A9B3:m A9B6-A9B9:m A9BC-A9BD:m A9E5:m AA29-AA2E:m AA31-AA32:m AA35-AA36:m AA43:m
  AA4C:m AA7C:m AAB0:m AAB2-AAB4:m AAB7-AAB8:m AABE-AABF:m AAC1:m AAEC-AAED:m AAF6:m AB6A-AB6B:o
  ABE5:m ABE8:m ABED:m FB1E:m FBB2-FBC2:r FBC3-FDFF:o FE20-FE2F:m FE45-FE46:o FE73:r 10101:o
  10140-1018C:o 10190-101A0:o 101FD:m 102E0:m 102E1-102FB:e 10376-1037A:m 10800-1091B:r 1091F:o
  10920-10A00:r 10A01-10A0F:m 10A10-10A35:r 10A38-10A3F:m 10A40-10AE4:r 10AE5-10AE6:m 10AEB-10B35:r
  10B39-10B3F:o 10B40-10D23:r 10D24-10D27:m 10D30-10D39:a 10D40-10D4F:r 10D69-10D6D:m 10D6E:o
  10D6F-10D8F:r 10E60-10E7E:a 10E80-10EA9:r 10EAB-10EAC:m 10EAD-10EC7:r 10ED0-10ED8:o 10EFA-10EFF:m
  10F00-10F45:r 10F46-10F50:m 10F51-10F81:r 10F82-10F85:m 10F86-10FF6:r 11001:m 11038-11046:m
  11052-11065:o 11070:m 11073-11074:m 1107F-11081:m 110B3-110B6:m 110B9-110BA:m 110C2:m
  11100-11102:m 11127-1112B:m 1112D-11134:m 11173:m 11180-11181:m 111B6-111BE:m 111C9-111CC:m
  111CF:m 1122F-11231:m 11234:m 11236-11237:m 1123E:m 11241:m 112DF:m 112E3-112EA:m 11300-11301:m
  1133B-1133C:m 11340:m 11366-11374:m 113BB-113C0:m 113CE:m 113D0:m 113D2:m 113E1-113E2:m
  11438-1143F:m 11442-11444:m 11446:m 1145E:m 114B3-114B8:m 114BA:m 114BF-114C0:m 114C2-114C3:m
  115B2-115B5:m 115BC-115BD:m 115BF-115C0:m 115DC-115DD:m 11633-1163A:m 1163D:m 1163F-11640:m
  11660-1166C:o 116AB:m 116AD:m 116B0-116B5:m 116B7:m 1171D-1171F:m 11722-11725:m 11727-1172B:m
  1182F-11837:m 11839-1183A:m 1193B-1193C:m 1193E:m 11943:m 119D4-119DB:m 119E0:m 11A01-11A06:m
  11A09-11A0A:m 11A33-11A38:m 11A3B-11A3E:m 11A47:m 11A51-11A56:m 11A59-11A5B:m 11A8A-11A96:m
  11A98-11A99:m 11B60:m 11B62-11B64:m 11B66:m 11C30-11C3D:m 11C92-11CA7:m 11CAA-11CB0:m
  11CB2-11CB3:m 11CB5-11CB6:m 11D31-11D45:m 11D47:m 11D90-11D91:m 11D95:m 11D97:m 11EF3-11EF4:m
  11F00-11F01:m 11F36-11F3A:m 11F40:m 11F42:m 11F5A:m 11FD5-11FF1:o 13440:m 13447-13455:m
  1611E-16129:m 1612D-1612F:m 16AF0-16AF4:m 16B30-16B36:m 16F4F:m 16F8F-16F92:m 16FE2:o 16FE4:m
  1BC9D-1BC9E:m 1CC00-1CEF0:o 1CF00-1CF46:m 1D167-1D169:m 1D17B-1D182:m 1D185-1D18B:m 1D1AA-1D1AD:m
  1D1E9-1D241:o 1D242-1D244:m 1D245:o 1D300-1D356:o 1DA00-1DA36:m 1DA3B-1DA6C:m 1DA75:m 1DA84:m
  1DA9B-1DAAF:m 1E000-1E08F:m 1E130-1E136:m 1E2AE:m 1E2EC-1E2EF:m 1E2FF:o 1E4EC-1E4EF:m
  1E5EE-1E5EF:m 1E6E3:m 1E6E6:m 1E6EE-1E6EF:m 1E6F5:m 1E800-1E8CF:r 1E8D0-1E8D6:m 1E922-1E943:r
  1E944-1E94A:m 1E94B-1ED3D:r 1EEF0-1F12F:o 1F16D-1F16F:o 1F1AD:o 1F260-1FBFA:o"

/-- The direction of a character. Those of ASCII are told by rule, and what stands in no range runs
from left to right. -/
def ofChar (c : Char) : Direction :=
  if c.isAlpha then .leftToRight
  else if c.isDigit then .digit
  else if c.toNat < 0x80 then .neutral
  else (ranges.find? c.toNat).getD .leftToRight

end Direction

end Ingest
