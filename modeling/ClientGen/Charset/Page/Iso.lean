/-!
# The pages of the ISO 8859 family

The sets of the ISO 8859 family have the characters of the first 160 codes in common with Unicode.
Every page lists the characters of its last codes; a replacement character fills a code without one.

## Main definitions

* `ClientGen.Charset.Page.iso2`, `ClientGen.Charset.Page.iso3`, `ClientGen.Charset.Page.iso4`,
  `ClientGen.Charset.Page.iso5`, `ClientGen.Charset.Page.iso6`, `ClientGen.Charset.Page.iso7`,
  `ClientGen.Charset.Page.iso8`, `ClientGen.Charset.Page.iso9`, `ClientGen.Charset.Page.iso10`,
  `ClientGen.Charset.Page.iso11`, `ClientGen.Charset.Page.iso13`, `ClientGen.Charset.Page.iso14`,
  `ClientGen.Charset.Page.iso15`, `ClientGen.Charset.Page.iso16` : the pages.
-/

namespace ClientGen.Charset.Page

/-- Part 2 of ISO 8859: Central Europe. -/
def iso2 : String :=
  "Ą˘Ł¤ĽŚ§¨ŠŞŤŹ\u00adŽŻ°ą˛ł´ľśˇ¸šşťź˝žżŔ" ++
  "ÁÂĂÄĹĆÇČÉĘËĚÍÎĎĐŃŇÓÔŐÖ×ŘŮÚŰÜÝŢßŕ" ++
  "áâăäĺćçčéęëěíîďđńňóôőö÷řůúűüýţ˙"

/-- Part 3 of ISO 8859: Southern Europe. -/
def iso3 : String :=
  "Ħ˘£¤�Ĥ§¨İŞĞĴ\u00ad�Ż°ħ²³´µĥ·¸ışğĵ½�żÀ" ++
  "ÁÂ�ÄĊĈÇÈÉÊËÌÍÎÏ�ÑÒÓÔĠÖ×ĜÙÚÛÜŬŜßà" ++
  "áâ�äċĉçèéêëìíîï�ñòóôġö÷ĝùúûüŭŝ˙"

/-- Part 4 of ISO 8859: Northern Europe. -/
def iso4 : String :=
  "ĄĸŖ¤ĨĻ§¨ŠĒĢŦ\u00adŽ¯°ą˛ŗ´ĩļˇ¸šēģŧŊžŋĀ" ++
  "ÁÂÃÄÅÆĮČÉĘËĖÍÎĪĐŅŌĶÔÕÖ×ØŲÚÛÜŨŪßā" ++
  "áâãäåæįčéęëėíîīđņōķôõö÷øųúûüũū˙"

/-- Part 5 of ISO 8859: Cyrillic. -/
def iso5 : String :=
  "ЁЂЃЄЅІЇЈЉЊЋЌ\u00adЎЏАБВГДЕЖЗИЙКЛМНОПР" ++
  "СТУФХЦЧШЩЪЫЬЭЮЯабвгдежзийклмнопр" ++
  "стуфхцчшщъыьэюя№ёђѓєѕіїјљњћќ§ўџ"

/-- Part 6 of ISO 8859: Arabic. -/
def iso6 : String :=
  "���¤�������،\u00ad�������������\u061b���\u061f�" ++
  "\u0621\u0622\u0623\u0624\u0625\u0626\u0627\u0628\u0629\u062a\u062b\u062c\u062d\u062e" ++
  "\u062f\u0630\u0631\u0632\u0633\u0634\u0635\u0636\u0637\u0638\u0639\u063a�����\u0640" ++
  "\u0641\u0642\u0643\u0644\u0645\u0646\u0647\u0648\u0649\u064a\u064b\u064c\u064d\u064e" ++
  "\u064f\u0650\u0651\u0652�������������"

/-- Part 7 of ISO 8859: Greek. -/
def iso7 : String :=
  "‘’£€₯¦§¨©ͺ«¬\u00ad�―°±²³΄΅Ά·ΈΉΊ»Ό½ΎΏΐ" ++
  "ΑΒΓΔΕΖΗΘΙΚΛΜΝΞΟΠΡ�ΣΤΥΦΧΨΩΪΫάέήίΰ" ++
  "αβγδεζηθικλμνξοπρςστυφχψωϊϋόύώ�"

/-- Part 8 of ISO 8859: Hebrew. -/
def iso8 : String :=
  "�¢£¤¥¦§¨©×«¬\u00ad®¯°±²³´µ¶·¸¹÷»¼½¾��" ++
  "������������������������������‗\u05d0" ++
  "\u05d1\u05d2\u05d3\u05d4\u05d5\u05d6\u05d7\u05d8\u05d9\u05da\u05db\u05dc\u05dd\u05de" ++
  "\u05df\u05e0\u05e1\u05e2\u05e3\u05e4\u05e5\u05e6\u05e7\u05e8\u05e9\u05ea��\u200e\u200f�"

/-- Part 9 of ISO 8859: Turkish. -/
def iso9 : String :=
  "ĞÑÒÓÔÕÖ×ØÙÚÛÜİŞßàáâãäåæçèéêëìíîï" ++
  "ğñòóôõö÷øùúûüışÿ"

/-- Part 10 of ISO 8859: Nordic languages. -/
def iso10 : String :=
  "ĄĒĢĪĨĶ§ĻĐŠŦŽ\u00adŪŊ°ąēģīĩķ·ļđšŧž―ūŋĀ" ++
  "ÁÂÃÄÅÆĮČÉĘËĖÍÎÏÐŅŌÓÔÕÖŨØŲÚÛÜÝÞßā" ++
  "áâãäåæįčéęëėíîïðņōóôõöũøųúûüýþĸ"

/-- Part 11 of ISO 8859: Thai. -/
def iso11 : String :=
  "กขฃคฅฆงจฉชซฌญฎฏฐฑฒณดตถทธนบปผฝพฟภ" ++
  "มยรฤลฦวศษสหฬอฮฯะ\u0e31าำ\u0e34\u0e35\u0e36\u0e37\u0e38\u0e39\u0e3a����฿เ" ++
  "แโใไๅๆ\u0e47\u0e48\u0e49\u0e4a\u0e4b\u0e4c\u0e4d\u0e4e๏๐๑๒๓๔๕๖๗๘๙๚๛����"

/-- Part 13 of ISO 8859: the Baltic. -/
def iso13 : String :=
  "”¢£¤„¦§Ø©Ŗ«¬\u00ad®Æ°±²³“µ¶·ø¹ŗ»¼½¾æĄ" ++
  "ĮĀĆÄÅĘĒČÉŹĖĢĶĪĻŠŃŅÓŌÕÖ×ŲŁŚŪÜŻŽßą" ++
  "įāćäåęēčéźėģķīļšńņóōõö÷ųłśūüżž’"

/-- Part 14 of ISO 8859: Celtic languages. -/
def iso14 : String :=
  "Ḃḃ£ĊċḊ§Ẁ©ẂḋỲ\u00ad®ŸḞḟĠġṀṁ¶ṖẁṗẃṠỳẄẅṡÀ" ++
  "ÁÂÃÄÅÆÇÈÉÊËÌÍÎÏŴÑÒÓÔÕÖṪØÙÚÛÜÝŶßà" ++
  "áâãäåæçèéêëìíîïŵñòóôõöṫøùúûüýŷÿ"

/-- Part 15 of ISO 8859: Western Europe with the sign of the euro. -/
def iso15 : String :=
  "€¥Š§š©ª«¬\u00ad®¯°±²³Žµ¶·ž¹º»ŒœŸ¿ÀÁÂÃ" ++
  "ÄÅÆÇÈÉÊËÌÍÎÏÐÑÒÓÔÕÖ×ØÙÚÛÜÝÞßàáâã" ++
  "äåæçèéêëìíîïðñòóôõö÷øùúûüýþÿ"

/-- Part 16 of ISO 8859: South-Eastern Europe. -/
def iso16 : String :=
  "ĄąŁ€„Š§š©Ș«Ź\u00adźŻ°±ČłŽ”¶·žčș»ŒœŸżÀ" ++
  "ÁÂĂÄĆÆÇÈÉÊËÌÍÎÏĐŃÒÓÔŐÖŚŰÙÚÛÜĘȚßà" ++
  "áâăäćæçèéêëìíîïđńòóôőöśűùúûüęțÿ"

end ClientGen.Charset.Page
