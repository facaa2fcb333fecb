import SenderPolicy.Text.CharacterName.Run

/-!
# Names of Indic characters

The names of the code points from U+0900 to U+0FFF: the scripts of India and those close to them.
-/

namespace SenderPolicy

/-- The names, by runs of code points. -/
def indicNames : List NameRun := [
  ⟨0x900, [
    "aDEVANAGARI SIGN INVERTED CANDRABINDUcCANDRABINDUcANUSVARAcVISARGAbLETTER SHORT AcAcAAcI",
    "cIIcUcUUcVOCALIC RdLcCANDRA EcSHORT EcEcAIcCANDRA OcSHORT OcOcAUcKAcKHAcGAcGHAcNGAcCAcCHA",
    "cJAcJHAcNYAcTTAcTTHAcDDAcDDHAcNNAcTAcTHAcDAcDHAcNAcNNNAcPAcPHAcBAcBHAcMAcYAcRAcRRAcLAcLLA",
    "cLLLAcVAcSHAcSSAcSAcHAbVOWEL SIGN OEdOOEbSIGN NUKTAcAVAGRAHAbVOWEL SIGN AAdIdIIdUdUU",
    "dVOCALIC ReRRdCANDRA EdSHORT EdEdAIdCANDRA OdSHORT OdOdAUbSIGN VIRAMA",
    "bVOWEL SIGN PRISHTHAMATRA EdAWbOMbSTRESS SIGN UDATTAdANUDATTAbGRAVE ACCENTbACUTE ACCENT",
    "bVOWEL SIGN CANDRA LONG EdUEdUUEbLETTER QAcKHHAcGHHAcZAcDDDHAcRHAcFAcYYAcVOCALIC RRdLL",
    "bVOWEL SIGN VOCALIC LeLLbDANDAbDOUBLE DANDAbDIGIT ZEROcONEcTWOcTHREEcFOURcFIVEcSIXcSEVEN",
    "cEIGHTcNINEbABBREVIATION SIGNbSIGN HIGH SPACING DOTbLETTER CANDRA AcOEcOOEcAWcUEcUUE",
    "cMARWARI DDAcZHAcHEAVY YAcGGAcJJAcGLOTTAL STOPcDDDAcBBAaBENGALI ANJIbSIGN CANDRABINDU",
    "cANUSVARAcVISARGA"]⟩,
  ⟨0x985, ["aBENGALI LETTER AcAAcIcIIcUcUUcVOCALIC RdL"]⟩, ⟨0x98F, ["aBENGALI LETTER EcAI"]⟩,
  ⟨0x993, [
    "aBENGALI LETTER OcAUcKAcKHAcGAcGHAcNGAcCAcCHAcJAcJHAcNYAcTTAcTTHAcDDAcDDHAcNNAcTAcTHAcDA",
    "cDHAcNA"]⟩,
  ⟨0x9AA, ["aBENGALI LETTER PAcPHAcBAcBHAcMAcYAcRA"]⟩, ⟨0x9B2, ["aBENGALI LETTER LA"]⟩,
  ⟨0x9B6, ["aBENGALI LETTER SHAcSSAcSAcHA"]⟩,
  ⟨0x9BC, ["aBENGALI SIGN NUKTAcAVAGRAHAbVOWEL SIGN AAdIdIIdUdUUdVOCALIC ReRR"]⟩,
  ⟨0x9C7, ["aBENGALI VOWEL SIGN EdAI"]⟩,
  ⟨0x9CB, ["aBENGALI VOWEL SIGN OdAUbSIGN VIRAMAbLETTER KHANDA TA"]⟩,
  ⟨0x9D7, ["aBENGALI AU LENGTH MARK"]⟩, ⟨0x9DC, ["aBENGALI LETTER RRAcRHA"]⟩,
  ⟨0x9DF, ["aBENGALI LETTER YYAcVOCALIC RRdLLbVOWEL SIGN VOCALIC LeLL"]⟩,
  ⟨0x9E6, [
    "aBENGALI DIGIT ZEROcONEcTWOcTHREEcFOURcFIVEcSIXcSEVENcEIGHTcNINE",
    "bLETTER RA WITH MIDDLE DIAGONALeLOWER DIAGONALbRUPEE MARKcSIGNbCURRENCY NUMERATOR ONEdTWO",
    "dTHREEdFOURdONE LESS THAN THE DENOMINATORcDENOMINATOR SIXTEENbISSHARbGANDA MARK",
    "bLETTER VEDIC ANUSVARAbABBREVIATION SIGNbSANDHI MARK"]⟩,
  ⟨0xA01, ["aGURMUKHI SIGN ADAK BINDIcBINDIcVISARGA"]⟩,
  ⟨0xA05, ["aGURMUKHI LETTER AcAAcIcIIcUcUU"]⟩, ⟨0xA0F, ["aGURMUKHI LETTER EEcAI"]⟩,
  ⟨0xA13, [
    "aGURMUKHI LETTER OOcAUcKAcKHAcGAcGHAcNGAcCAcCHAcJAcJHAcNYAcTTAcTTHAcDDAcDDHAcNNAcTAcTHAcDA",
    "cDHAcNA"]⟩,
  ⟨0xA2A, ["aGURMUKHI LETTER PAcPHAcBAcBHAcMAcYAcRA"]⟩, ⟨0xA32, ["aGURMUKHI LETTER LAcLLA"]⟩,
  ⟨0xA35, ["aGURMUKHI LETTER VAcSHA"]⟩, ⟨0xA38, ["aGURMUKHI LETTER SAcHA"]⟩,
  ⟨0xA3C, ["aGURMUKHI SIGN NUKTA"]⟩, ⟨0xA3E, ["aGURMUKHI VOWEL SIGN AAdIdIIdUdUU"]⟩,
  ⟨0xA47, ["aGURMUKHI VOWEL SIGN EEdAI"]⟩, ⟨0xA4B, ["aGURMUKHI VOWEL SIGN OOdAUbSIGN VIRAMA"]⟩,
  ⟨0xA51, ["aGURMUKHI SIGN UDAAT"]⟩, ⟨0xA59, ["aGURMUKHI LETTER KHHAcGHHAcZAcRRA"]⟩,
  ⟨0xA5E, ["aGURMUKHI LETTER FA"]⟩,
  ⟨0xA66, [
    "aGURMUKHI DIGIT ZEROcONEcTWOcTHREEcFOURcFIVEcSIXcSEVENcEIGHTcNINEbTIPPIbADDAKbIRIbURA",
    "bEK ONKARbSIGN YAKASHbABBREVIATION SIGN"]⟩,
  ⟨0xA81, ["aGUJARATI SIGN CANDRABINDUcANUSVARAcVISARGA"]⟩,
  ⟨0xA85, ["aGUJARATI LETTER AcAAcIcIIcUcUUcVOCALIC RdLbVOWEL CANDRA E"]⟩,
  ⟨0xA8F, ["aGUJARATI LETTER EcAIbVOWEL CANDRA O"]⟩,
  ⟨0xA93, [
    "aGUJARATI LETTER OcAUcKAcKHAcGAcGHAcNGAcCAcCHAcJAcJHAcNYAcTTAcTTHAcDDAcDDHAcNNAcTAcTHAcDA",
    "cDHAcNA"]⟩,
  ⟨0xAAA, ["aGUJARATI LETTER PAcPHAcBAcBHAcMAcYAcRA"]⟩, ⟨0xAB2, ["aGUJARATI LETTER LAcLLA"]⟩,
  ⟨0xAB5, ["aGUJARATI LETTER VAcSHAcSSAcSAcHA"]⟩,
  ⟨0xABC, ["aGUJARATI SIGN NUKTAcAVAGRAHAbVOWEL SIGN AAdIdIIdUdUUdVOCALIC ReRRdCANDRA E"]⟩,
  ⟨0xAC7, ["aGUJARATI VOWEL SIGN EdAIdCANDRA O"]⟩,
  ⟨0xACB, ["aGUJARATI VOWEL SIGN OdAUbSIGN VIRAMA"]⟩, ⟨0xAD0, ["aGUJARATI OM"]⟩,
  ⟨0xAE0, ["aGUJARATI LETTER VOCALIC RRdLLbVOWEL SIGN VOCALIC LeLL"]⟩,
  ⟨0xAE6, [
    "aGUJARATI DIGIT ZEROcONEcTWOcTHREEcFOURcFIVEcSIXcSEVENcEIGHTcNINEbABBREVIATION SIGN",
    "bRUPEE SIGN"]⟩,
  ⟨0xAF9, [
    "aGUJARATI LETTER ZHAbSIGN SUKUNcSHADDAcMADDAHcTHREE-DOT NUKTA ABOVEcCIRCLE NUKTA ABOVE",
    "cTWO-CIRCLE NUKTA ABOVE"]⟩,
  ⟨0xB01, ["aORIYA SIGN CANDRABINDUcANUSVARAcVISARGA"]⟩,
  ⟨0xB05, ["aORIYA LETTER AcAAcIcIIcUcUUcVOCALIC RdL"]⟩, ⟨0xB0F, ["aORIYA LETTER EcAI"]⟩,
  ⟨0xB13, [
    "aORIYA LETTER OcAUcKAcKHAcGAcGHAcNGAcCAcCHAcJAcJHAcNYAcTTAcTTHAcDDAcDDHAcNNAcTAcTHAcDAcDHA",
    "cNA"]⟩,
  ⟨0xB2A, ["aORIYA LETTER PAcPHAcBAcBHAcMAcYAcRA"]⟩, ⟨0xB32, ["aORIYA LETTER LAcLLA"]⟩,
  ⟨0xB35, ["aORIYA LETTER VAcSHAcSSAcSAcHA"]⟩,
  ⟨0xB3C, ["aORIYA SIGN NUKTAcAVAGRAHAbVOWEL SIGN AAdIdIIdUdUUdVOCALIC ReRR"]⟩,
  ⟨0xB47, ["aORIYA VOWEL SIGN EdAI"]⟩, ⟨0xB4B, ["aORIYA VOWEL SIGN OdAUbSIGN VIRAMA"]⟩,
  ⟨0xB55, ["aORIYA SIGN OVERLINEbAI LENGTH MARKbAU LENGTH MARK"]⟩,
  ⟨0xB5C, ["aORIYA LETTER RRAcRHA"]⟩,
  ⟨0xB5F, ["aORIYA LETTER YYAcVOCALIC RRdLLbVOWEL SIGN VOCALIC LeLL"]⟩,
  ⟨0xB66, [
    "aORIYA DIGIT ZEROcONEcTWOcTHREEcFOURcFIVEcSIXcSEVENcEIGHTcNINEbISSHARbLETTER WA",
    "bFRACTION ONE QUARTERdHALFcTHREE QUARTERScONE SIXTEENTHdEIGHTHcTHREE SIXTEENTHS"]⟩,
  ⟨0xB82, ["aTAMIL SIGN ANUSVARAcVISARGA"]⟩, ⟨0xB85, ["aTAMIL LETTER AcAAcIcIIcUcUU"]⟩,
  ⟨0xB8E, ["aTAMIL LETTER EcEEcAI"]⟩, ⟨0xB92, ["aTAMIL LETTER OcOOcAUcKA"]⟩,
  ⟨0xB99, ["aTAMIL LETTER NGAcCA"]⟩, ⟨0xB9C, ["aTAMIL LETTER JA"]⟩,
  ⟨0xB9E, ["aTAMIL LETTER NYAcTTA"]⟩, ⟨0xBA3, ["aTAMIL LETTER NNAcTA"]⟩,
  ⟨0xBA8, ["aTAMIL LETTER NAcNNNAcPA"]⟩,
  ⟨0xBAE, ["aTAMIL LETTER MAcYAcRAcRRAcLAcLLAcLLLAcVAcSHAcSSAcSAcHA"]⟩,
  ⟨0xBBE, ["aTAMIL VOWEL SIGN AAdIdIIdUdUU"]⟩, ⟨0xBC6, ["aTAMIL VOWEL SIGN EdEEdAI"]⟩,
  ⟨0xBCA, ["aTAMIL VOWEL SIGN OdOOdAUbSIGN VIRAMA"]⟩, ⟨0xBD0, ["aTAMIL OM"]⟩,
  ⟨0xBD7, ["aTAMIL AU LENGTH MARK"]⟩,
  ⟨0xBE6, [
    "aTAMIL DIGIT ZEROcONEcTWOcTHREEcFOURcFIVEcSIXcSEVENcEIGHTcNINEbNUMBER TENcONE HUNDRED",
    "dTHOUSANDbDAY SIGNbMONTH SIGNbYEAR SIGNbDEBIT SIGNbCREDIT SIGNbAS ABOVE SIGNbRUPEE SIGN",
    "bNUMBER SIGN"]⟩,
  ⟨0xC00, [
    "aTELUGU SIGN COMBINING CANDRABINDU ABOVEcCANDRABINDUcANUSVARAcVISARGA",
    "cCOMBINING ANUSVARA ABOVEbLETTER AcAAcIcIIcUcUUcVOCALIC RdL"]⟩,
  ⟨0xC0E, ["aTELUGU LETTER EcEEcAI"]⟩,
  ⟨0xC12, [
    "aTELUGU LETTER OcOOcAUcKAcKHAcGAcGHAcNGAcCAcCHAcJAcJHAcNYAcTTAcTTHAcDDAcDDHAcNNAcTAcTHAcDA",
    "cDHAcNA"]⟩,
  ⟨0xC2A, ["aTELUGU LETTER PAcPHAcBAcBHAcMAcYAcRAcRRAcLAcLLAcLLLAcVAcSHAcSSAcSAcHA"]⟩,
  ⟨0xC3C, ["aTELUGU SIGN NUKTAcAVAGRAHAbVOWEL SIGN AAdIdIIdUdUUdVOCALIC ReRR"]⟩,
  ⟨0xC46, ["aTELUGU VOWEL SIGN EdEEdAI"]⟩, ⟨0xC4A, ["aTELUGU VOWEL SIGN OdOOdAUbSIGN VIRAMA"]⟩,
  ⟨0xC55, ["aTELUGU LENGTH MARKbAI LENGTH MARK"]⟩, ⟨0xC58, ["aTELUGU LETTER TSAcDZAcRRRA"]⟩,
  ⟨0xC5D, ["aTELUGU LETTER NAKAARA POLLU"]⟩,
  ⟨0xC60, ["aTELUGU LETTER VOCALIC RRdLLbVOWEL SIGN VOCALIC LeLL"]⟩,
  ⟨0xC66, ["aTELUGU DIGIT ZEROcONEcTWOcTHREEcFOURcFIVEcSIXcSEVENcEIGHTcNINE"]⟩,
  ⟨0xC77, [
    "aTELUGU SIGN SIDDHAMbFRACTION DIGIT ZERO FOR ODD POWERS OF FOURdONE FOR ODD POWERS OF FOUR",
    "dTWO FOR ODD POWERS OF FOURdTHREE FOR ODD POWERS OF FOURdONE FOR EVEN POWERS OF FOUR",
    "dTWO FOR EVEN POWERS OF FOURdTHREE FOR EVEN POWERS OF FOURbSIGN TUUMU",
    "aKANNADA SIGN SPACING CANDRABINDUcCANDRABINDUcANUSVARAcVISARGAcSIDDHAMbLETTER AcAAcIcIIcU",
    "cUUcVOCALIC RdL"]⟩,
  ⟨0xC8E, ["aKANNADA LETTER EcEEcAI"]⟩,
  ⟨0xC92, [
    "aKANNADA LETTER OcOOcAUcKAcKHAcGAcGHAcNGAcCAcCHAcJAcJHAcNYAcTTAcTTHAcDDAcDDHAcNNAcTAcTHA",
    "cDAcDHAcNA"]⟩,
  ⟨0xCAA, ["aKANNADA LETTER PAcPHAcBAcBHAcMAcYAcRAcRRAcLAcLLA"]⟩,
  ⟨0xCB5, ["aKANNADA LETTER VAcSHAcSSAcSAcHA"]⟩,
  ⟨0xCBC, ["aKANNADA SIGN NUKTAcAVAGRAHAbVOWEL SIGN AAdIdIIdUdUUdVOCALIC ReRR"]⟩,
  ⟨0xCC6, ["aKANNADA VOWEL SIGN EdEEdAI"]⟩, ⟨0xCCA, ["aKANNADA VOWEL SIGN OdOOdAUbSIGN VIRAMA"]⟩,
  ⟨0xCD5, ["aKANNADA LENGTH MARKbAI LENGTH MARK"]⟩, ⟨0xCDD, ["aKANNADA LETTER NAKAARA POLLUcFA"]⟩,
  ⟨0xCE0, ["aKANNADA LETTER VOCALIC RRdLLbVOWEL SIGN VOCALIC LeLL"]⟩,
  ⟨0xCE6, ["aKANNADA DIGIT ZEROcONEcTWOcTHREEcFOURcFIVEcSIXcSEVENcEIGHTcNINE"]⟩,
  ⟨0xCF1, ["aKANNADA SIGN JIHVAMULIYAcUPADHMANIYA"]⟩,
  ⟨0xD00, [
    "aMALAYALAM SIGN COMBINING ANUSVARA ABOVEcCANDRABINDUcANUSVARAcVISARGA",
    "bLETTER VEDIC ANUSVARAcAcAAcIcIIcUcUUcVOCALIC RdL"]⟩,
  ⟨0xD0E, ["aMALAYALAM LETTER EcEEcAI"]⟩,
  ⟨0xD12, [
    "aMALAYALAM LETTER OcOOcAUcKAcKHAcGAcGHAcNGAcCAcCHAcJAcJHAcNYAcTTAcTTHAcDDAcDDHAcNNAcTAcTHA",
    "cDAcDHAcNAcNNNAcPAcPHAcBAcBHAcMAcYAcRAcRRAcLAcLLAcLLLAcVAcSHAcSSAcSAcHAcTTTA",
    "bSIGN VERTICAL BAR VIRAMAcCIRCULAR VIRAMAcAVAGRAHAbVOWEL SIGN AAdIdIIdUdUUdVOCALIC ReRR"]⟩,
  ⟨0xD46, ["aMALAYALAM VOWEL SIGN EdEEdAI"]⟩,
  ⟨0xD4A, ["aMALAYALAM VOWEL SIGN OdOOdAUbSIGN VIRAMAbLETTER DOT REPHbSIGN PARA"]⟩,
  ⟨0xD54, [
    "aMALAYALAM LETTER CHILLU MdYdLLLbAU LENGTH MARKbFRACTION ONE ONE-HUNDRED-AND-SIXTIETH",
    "dFORTIETHcTHREE EIGHTIETHScONE TWENTIETHdTENTHcTHREE TWENTIETHScONE FIFTH",
    "bLETTER ARCHAIC IIcVOCALIC RRdLLbVOWEL SIGN VOCALIC LeLL"]⟩,
  ⟨0xD66, [
    "aMALAYALAM DIGIT ZEROcONEcTWOcTHREEcFOURcFIVEcSIXcSEVENcEIGHTcNINEbNUMBER TENcONE HUNDRED",
    "dTHOUSANDbFRACTION ONE QUARTERdHALFcTHREE QUARTERScONE SIXTEENTHdEIGHTHcTHREE SIXTEENTHS",
    "bDATE MARKbLETTER CHILLU NNdNdRRdLdLLdK"]⟩,
  ⟨0xD81, ["aSINHALA SIGN CANDRABINDUcANUSVARAYAcVISARGAYA"]⟩,
  ⟨0xD85, [
    "aSINHALA LETTER AYANNAcAAYANNAcAEYANNAcAEEYANNAcIYANNAcIIYANNAcUYANNAcUUYANNAcIRUYANNA",
    "cIRUUYANNAcILUYANNAcILUUYANNAcEYANNAcEEYANNAcAIYANNAcOYANNAcOOYANNAcAUYANNA"]⟩,
  ⟨0xD9A, [
    "aSINHALA LETTER ALPAPRAANA KAYANNAcMAHAAPRAANA KAYANNAcALPAPRAANA GAYANNA",
    "cMAHAAPRAANA GAYANNAcKANTAJA NAASIKYAYAcSANYAKA GAYANNAcALPAPRAANA CAYANNA",
    "cMAHAAPRAANA CAYANNAcALPAPRAANA JAYANNAcMAHAAPRAANA JAYANNAcTAALUJA NAASIKYAYA",
    "dSANYOOGA NAAKSIKYAYAcSANYAKA JAYANNAcALPAPRAANA TTAYANNAcMAHAAPRAANA TTAYANNA",
    "cALPAPRAANA DDAYANNAcMAHAAPRAANA DDAYANNAcMUURDHAJA NAYANNAcSANYAKA DDAYANNA",
    "cALPAPRAANA TAYANNAcMAHAAPRAANA TAYANNAcALPAPRAANA DAYANNAcMAHAAPRAANA DAYANNA",
    "cDANTAJA NAYANNA"]⟩,
  ⟨0xDB3, [
    "aSINHALA LETTER SANYAKA DAYANNAcALPAPRAANA PAYANNAcMAHAAPRAANA PAYANNAcALPAPRAANA BAYANNA",
    "cMAHAAPRAANA BAYANNAcMAYANNAcAMBA BAYANNAcYAYANNAcRAYANNA"]⟩,
  ⟨0xDBD, ["aSINHALA LETTER DANTAJA LAYANNA"]⟩,
  ⟨0xDC0, [
    "aSINHALA LETTER VAYANNAcTAALUJA SAYANNAcMUURDHAJA SAYANNAcDANTAJA SAYANNAcHAYANNA",
    "cMUURDHAJA LAYANNAcFAYANNA"]⟩,
  ⟨0xDCA, ["aSINHALA SIGN AL-LAKUNA"]⟩,
  ⟨0xDCF, [
    "aSINHALA VOWEL SIGN AELA-PILLAdKETTI AEDA-PILLAdDIGA AEDA-PILLAdKETTI IS-PILLA",
    "dDIGA IS-PILLAdKETTI PAA-PILLA"]⟩,
  ⟨0xDD6, ["aSINHALA VOWEL SIGN DIGA PAA-PILLA"]⟩,
  ⟨0xDD8, [
    "aSINHALA VOWEL SIGN GAETTA-PILLAdKOMBUVAdDIGA KOMBUVAdKOMBU DEKAdKOMBUVA HAA AELA-PILLA",
    "fDIGA AELA-PILLAfGAYANUKITTAdGAYANUKITTA"]⟩,
  ⟨0xDE6, ["aSINHALA LITH DIGIT ZEROdONEdTWOdTHREEdFOURdFIVEdSIXdSEVENdEIGHTdNINE"]⟩,
  ⟨0xDF2, ["aSINHALA VOWEL SIGN DIGA GAETTA-PILLAeGAYANUKITTAbPUNCTUATION KUNDDALIYA"]⟩,
  ⟨0xE01, [
    "aTHAI CHARACTER KO KAIcKHO KHAIdKHUATdKHWAIdKHONdRAKHANGcNGO NGUcCHO CHANdCHINGdCHANG",
    "cSO SOcCHO CHOEcYO YINGcDO CHADAcTO PATAKcTHO THANdNANGMONTHOdPHUTHAOcNO NENcDO DEKcTO TAO",
    "cTHO THUNGdTHAHANdTHONGcNO NUcBO BAIMAIcPO PLAcPHO PHUNGcFO FAcPHO PHANcFO FANcPHO SAMPHAO",
    "cMO MAcYO YAKcRO RUAcRUcLO LINGcLUcWO WAENcSO SALAdRUSIdSUAcHO HIPcLO CHULAcO ANG",
    "cHO NOKHUKcPAIYANNOIcSARA AcMAI HAN-AKATcSARA AAdAMdIdIIdUEdUEEdUdUUcPHINTHU"]⟩,
  ⟨0xE3F, [
    "aTHAI CURRENCY SYMBOL BAHTbCHARACTER SARA EdAEdOdAI MAIMUANeMAIMALAIcLAKKHANGYAOcMAIYAMOK",
    "cMAITAIKHUcMAI EKdTHOdTRIdCHATTAWAcTHANTHAKHATcNIKHAHITcYAMAKKANcFONGMANbDIGIT ZEROcONE",
    "cTWOcTHREEcFOURcFIVEcSIXcSEVENcEIGHTcNINEbCHARACTER ANGKHANKHUcKHOMUT"]⟩,
  ⟨0xE81, ["aLAO LETTER KOcKHO SUNG"]⟩, ⟨0xE84, ["aLAO LETTER KHO TAM"]⟩,
  ⟨0xE86, ["aLAO LETTER PALI GHAcNGOcCOcPALI CHAcSO TAM"]⟩,
  ⟨0xE8C, [
    "aLAO LETTER PALI JHAcNYOcPALI NYAdTTAdTTHAdDDAdDDHAdNNAcDOcTOcTHO SUNGdTAMcPALI DHAcNOcBO",
    "cPOcPHO SUNGcFO TAMcPHO TAMcFO SUNGcPALI BHAcMOcYOcLO LING"]⟩,
  ⟨0xEA5, ["aLAO LETTER LO LOOT"]⟩,
  ⟨0xEA7, [
    "aLAO LETTER WOcSANSKRIT SHAdSSAcSO SUNGcHO SUNGcPALI LLAcOcHO TAMbELLIPSISbVOWEL SIGN A",
    "dMAI KANdAAdAMdIdIIdYdYYdUdUUbSIGN PALI VIRAMAbVOWEL SIGN MAI KONbSEMIVOWEL SIGN LOdNYO"]⟩,
  ⟨0xEC0, ["aLAO VOWEL SIGN EdEIdOdAYdAI"]⟩, ⟨0xEC6, ["aLAO KO LA"]⟩,
  ⟨0xEC8, ["aLAO TONE MAI EKdTHOdTIdCATAWAbCANCELLATION MARKbNIGGAHITA"]⟩,
  ⟨0xED0, ["aLAO DIGIT ZEROcONEcTWOcTHREEcFOURcFIVEcSIXcSEVENcEIGHTcNINE"]⟩,
  ⟨0xEDC, ["aLAO HO NOcMObLETTER KHMU GOdNYO"]⟩,
  ⟨0xF00, [
    "aTIBETAN SYLLABLE OMbMARK GTER YIG MGO TRUNCATED Af-UM RNAM BCAD MAgGTER TSHEG MA",
    "cINITIAL YIG MGO MDUN MAcCLOSING YIG MGO SGAB MAcCARET YIG MGO PHUR SHAD MA",
    "cYIG MGO TSHEG SHAD MAcSBRUL SHADcBSKUR YIG MGOcBKA- SHOG YIG MGOcINTERSYLLABIC TSHEG",
    "cDELIMITER TSHEG BSTARcSHADcNYIS SHADcTSHEG SHADcNYIS TSHEG SHADcRIN CHEN SPUNGS SHAD",
    "cRGYA GRAM SHADcCARET -DZUD RTAGS ME LONG CANcGTER TSHEGbLOGOTYPE SIGN CHAD RTAGS",
    "dLHAG RTAGSbASTROLOGICAL SIGN SGRA GCAN -CHAR RTAGSd-KHYUD PAdSDONG TSHUGS",
    "bSIGN RDEL DKAR GCIGeGNYISeGSUMdNAG GCIGeGNYISdDKAR RDEL NAGbDIGIT ZEROcONEcTWOcTHREEcFOUR",
    "cFIVEcSIXcSEVENcEIGHTcNINEcHALF ONEdTWOdTHREEdFOURdFIVEdSIXdSEVENdEIGHTdNINEdZERO",
    "bMARK BSDUS RTAGScNGAS BZUNG NYI ZLAcCARET -DZUD RTAGS BZHI MIG CANcNGAS BZUNG SGOR RTAGS",
    "cCHE MGOcTSA -PHRUcGUG RTAGS GYONeGYAScANG KHANG GYONeGYASbSIGN YAR TSHEScMAR TSHES",
    "bLETTER KAcKHAcGAcGHAcNGAcCAcCHAcJA"]⟩,
  ⟨0xF49, [
    "aTIBETAN LETTER NYAcTTAcTTHAcDDAcDDHAcNNAcTAcTHAcDAcDHAcNAcPAcPHAcBAcBHAcMAcTSAcTSHAcDZA",
    "cDZHAcWAcZHAcZAc-AcYAcRAcLAcSHAcSSAcSAcHAcAcKSSAcFIXED-FORM RAcKKAcRRA"]⟩,
  ⟨0xF71, [
    "aTIBETAN VOWEL SIGN AAdIdIIdUdUUdVOCALIC ReRReLeLLdEdEEdOdOObSIGN RJES SU NGA ROcRNAM BCAD",
    "bVOWEL SIGN REVERSED IeIIbSIGN NYI ZLA NAA DAcSNA LDANbMARK HALANTAcPALUTAbSIGN LCI RTAGS",
    "cYANG RTAGScLCE TSA CANcMCHU CANcGRU CAN RGYINGSdMED RGYINGScINVERTED MCHU CAN",
    "bSUBJOINED SIGN LCE TSA CANdMCHU CANdINVERTED MCHU CANcLETTER KAdKHAdGAdGHAdNGAdCAdCHAdJA"]⟩,
  ⟨0xF99, [
    "aTIBETAN SUBJOINED LETTER NYAdTTAdTTHAdDDAdDDHAdNNAdTAdTHAdDAdDHAdNAdPAdPHAdBAdBHAdMAdTSA",
    "dTSHAdDZAdDZHAdWAdZHAdZAd-AdYAdRAdLAdSHAdSSAdSAdHAdAdKSSAdFIXED-FORM WAeYAeRA"]⟩,
  ⟨0xFBE, [
    "aTIBETAN KU RU KHAeBZHI MIG CANbCANTILLATION SIGN HEAVY BEATdLIGHT BEATdCANG TE-U",
    "dSBUB -CHALbSYMBOL DRIL BUcRDO RJEcPADMA GDANcRDO RJE RGYA GRAMcPHUR PAcNOR BUeNYIS -KHYIL",
    "eGSUM -KHYILeBZHI -KHYIL"]⟩,
  ⟨0xFCE, [
    "aTIBETAN SIGN RDEL NAG RDEL DKAReGSUMbMARK BSKA- SHOG GI MGO RGYANcMNYAM YIG GI MGO RGYAN",
    "cNYIS TSHEGcINITIAL BRDA RNYING YIG MGO MDUN MAcCLOSING BRDA RNYING YIG MGO SGAB MA",
    "aRIGHT-FACING SVASTI SIGNaLEFT-FACING SVASTI SIGNaRIGHT-FACING SVASTI SIGN WITH DOTS",
    "aLEFT-FACING SVASTI SIGN WITH DOTSaTIBETAN MARK LEADING MCHAN RTAGScTRAILING MCHAN RTAGS"]⟩]

end SenderPolicy
