/-! The names of characters, as one text. -/

namespace Promptline.Text

/-- The names and the other names of all characters in Unicode 14, in order, without those that follow
from a code point.  Each starts with small letters that stand for numbers, from zero for `a` up to 25
for `z`.  Their sum says how many characters at the end of the name before are dropped before the rest
of this one is added.  Ends of lines mean nothing. -/
def characterNames : String :=
  "aABACUSfC CURRENTiCORDIONfUNT OFiKaNOWLEDGEjTIVATE ARABIC FORM SHAPINGtSYMMETRIC SWAPPINGzUTE ACCENT
fNGLEkDDRESSED TO THE SUBJECTwHESIVE BANDAGEoI SHAKTIiLAM ALIF LENGTHENERpCAPITAL LETTER ALIFeBAbHEd
CHIdDAALIeHAdEbFAcGAbBEdHAcIbJIIMeKAFcHAcPOdLAAMeMIIMeNHAcUNcYAdObPEcQAAFeRAcSHAcINNYIIYHEkTUcUbVAcW
AWdYAbHEdZALrONSONANT MODIFIERsDIGIT EIGHTfFIVEdOUReNINEeONEdSEVENeIXdTHREEeWOdZEROkGEMINATE CONSONA
NT MODIFIERuION MARKpHAMZAfINITIAL EXCLAMATION MARKqQUESTION MARKvNASALIZATION MARKqUKTAfSMALL LETTE
R ALIFeBAbHEdCHIdDAALIeHAdEbFAcGAbBEdHAcIbJIIMeKAFcHAcPOdLAAMeMIIMeNHAcUNcYAdObPEcQAAFeRAcSHAcINNYII
YHEkTUcUbVAcWAWdYAbHEdZALqVOWEL LENGTHENERuMETOSeISSION TICKETSpULTeEGEAN CHECK MARKkDRY MEASURE FIR
ST SUBUNITzLIQUID MEASURE FIRST SUBUNITzdMEASURE SECOND SUBUNIToTHIRD SUBUNITvNUMBER EIGHTa HUNDREDh
THOUSANDjYa THOUSANDpFIFTYa THOUSANDmVEa HUNDREDhTHOUSANDmORTYa THOUSANDmURa HUNDREDhTHOUSANDnNINEa
 HUNDREDhTHOUSANDjTYa THOUSANDpONEa HUNDREDhTHOUSANDmSEVENa HUNDREDhTHOUSANDjTYa THOUSANDpIXa HUNDRE
DhTHOUSANDjTYa THOUSANDoTENa THOUSANDlHIRTYa THOUSANDnREEa HUNDREDhTHOUSANDnWENTYa THOUSANDnOa HUNDR
EDhTHOUSANDtWEIGHT BASE UNITjFIRST SUBUNITmOURTH SUBUNIToSECOND SUBUNIToTHIRD SUBUNITtORD SEPARATOR
 DOTdLINEyRIAL TRAMWAYnFGHANI SIGNlHOM CONSONANT SIGN MEDIAL LAbIGATING RAlRAyDIGIT EIGHTfFIVEdOUReN
INEeONEdSEVENeIXdTHREEeWOdZEROkLETTER AaLTERNATE BAcGAcTAmBAbHAdCAbHAdDAbDAbHAdHAdGAbHAdHAcJAbHAdKAb
HAdLAbLAdMAcNAbGAcNAcYAdPAbHAdRAcSAcTAbHAcTAbHAlNUMBER TENcWENTYnSIGN KILLERgRULAIfSECTIONgMALL SECT
IONrYMBOL VIjVOWEL SIGN AaAbIbMbWcEbIaIcObUaUrIRPLANEa ARRIVINGiDEPARTURErKTIESELSKABlLARM CLOCKjCHE
MICAL SYMBOL FOR AIRcLEMBICfKALIa-2gUMdMALGAMgNTIMONY ORElQUA REGIAa-2hVITAEa-2iFORTISjRSENICgSHESeU
RIPIGMENTlBATH OF MARYeVAPOURSoISMUTH OREkLACK SULFURlORAXa-2b3gRICKfCADUCEUSgLXcPUT MORTUUMmINNABAR
hOPPER ANTIMONIATElOREjROCUS OF COPPERa-2iIRONmUCIBLEa-2b3b4b5kDAY-NIGHTiISSOLVEa-2hTILLhEARTHfFIREe
GOLDdUMdHALF DRAMeOUNCEjORSE DUNGiUReIRON OREa-2g-COPPER OREpLEAD OREhODESTONEjMARCASITEiERCURY SUBL
IMATEa-2b3sONTHfNIGHTdTREfOILdPHILOSOPHERS SULFURsOT ASHEShWDERaED BRICKnRECIPITATEkURIFYeTREFACTION
mQUICK LIMEhNTESSENCEmREALGARa-2hGULUSa OF ANTIMONYa-2kIRONi-2b3b4hTORTfOCK SALTa-2lSAL-AMMONIACjTa
 OF ANTIMONYiCOPPER ANTIMONIATEzCEPTER OF JOVEoILVERfOAPdPIRITfTARRED TRIDENTnRATUM SUPER STRATUMa-2
wUBLIMATE OF ANTIMONYiCOPPERgSALT OF ANTIMONYiCOPPERtIONjLFURgTARTARa-2hIN OREeCTUREhRIDENTgUTTYfURI
NEfVERDIGRISiINEGARa OF ANTIMONYm-2b3hTRIOLa-2jWATERdXxEF SYMBOLiMBICeRTdIEN MONSTERlL AROUND-PROFIL
EoEQUAL TOkMaOST EQUAL OR EQUAL TOlTOa WITH CIRCUMFLEX ACCENTzlTERNATE ONE-WAY LEFT WAY TRAFFICzbIVE
 KEY SYMBOLvMALGAMATION OR COPRODUCTxBULANCEhERICAN FOOTBALLpPERSANDgHORAgNATOLIAN HIEROGLYPH A001b2
b3b4b5b6b7b8b9c10aAc1b2b3b4b5b6b7b8b9c20b1b2b3b4b5b6aAc7b8b9c30b1b2b3b4b5b6b7b8b9aAd40b1aAc2b3b4b5aA
c6aAbBc7b8b9c50b1b2b3b4b5b6b7b8b9c60b1b2b3b4b5b6aAbBbCc7b8b9c70b1b2b3b4b5b6b7b8b9c80b1b2b3b4b5b6b7b8
b9c90b1b2b3b4b5b6b7aAc8aAc9d100aAc1aAc2aAc3b4aAbBbCc5aAbBc6b7aAbBbCc8b9c10aAbBc1b2b3b4b5aAc6b7b8b9c2
0b1b2b3b4b5aAc6b7b8b9c30b1b2b3b4b5aAc6b7b8b9c40b1b2b3b4b5b6b7b8b9c50b1b2b3b4b5b6b7b8b9c60b1b2b3b4b5b
6b7b8b9c70b1b2b3b4b5b6b7b8b9c80b1b2b3b4b5b6b7b8b9c90b1b2b3b4b5b6b7b8b9d200b1b2aAbBc3b4b5b6b7aAc8b9aA
d10b1b2b3b4b5aAc6aAc7b8b9c20b1b2b3b4b5b6b7aAc8b9c30b1b2b3b4b5b6b7b8b9c40b1b2b3b4b5b6b7b8b9c50b1b2b3b
4b5b6b7b8b9c60b1b2b3b4b5b6b7aAc8b9c70b1b2b3b4b5b6b7b8b9c80b1b2b3b4b5b6b7b8b9aAd90b1b2b3b4aAc5b6b7b8b
9aAe300b1b2b3b4b5b6b7b8b9aAd10b1b2b3b4b5b6b7b8b9c20b1b2b3b4b5b6b7b8b9aAd30b1b2AbBbCc3b4b5b6aAbBbCc7b
8b9c40b1b2b3b4b5b6b7b8b9c50b1b2b3b4b5b6b7b8b9aAd60b1b2b3b4aAc5b6b7b8aAc9c70b1aAc2b3b4b5b6b7b8b9c80b1
aAc2b3 RA OR RIjAc4b5b6aAc7b8b9c90b1b2b3 EIGHTh4b5b6b7b8b9d400b1b2b3b4b5b6b7b8b9c10 BEGIN LOGOGRAM M
ARKuA END LOGOGRAM MARKu1b2b3b4b5b6b7b8b9c20b1b2b3b4b5b6b7b8b9c30b1b2b3b4b5b6b7b8b9c40b1b2b3b4b5b6b7
b8b9c50aAc1b2b3b4b5b6b7aAc8b9c60b1b2b3b4b5b6b7b8b9c70b1b2b3b4b5b6b7b8b9c80b1b2b3b4b5b6b7b8b9c90b1b2b
3b4b5b6b7d501b2b3b4b5b6b7b8b9c10b1b2b3b4b5b6b7b8b9c20b1b2b3b4b5b6b7b8b9c30uMICAL HEARToCHOReD WITH D
OTkGER SYMBOLjLEa WITH S INSIDEiUNDERBARqRY FACEhSTROM SIGNkUISHED FACEmKHcTaENNA WITH BARSoICLOCKWI
SE CLOSED CIRCLE ARROWsONTOUR INTEGRALqDOWNWARDS AND UPWARDS OPEN CIRCLE ARROWSzpGAPPED CIRCLE ARROW
tINTEGRATIONlOPEN CIRCLE ARROWrTOP SEMICIRCLE ARROWtRIANGLE-HEADED BOTTOM U-SHAPED ARROWvLEFT U-SHAP
ED ARROWtOPEN CIRCLE ARROWrRIGHT U-SHAPED ARROWuTOP U-SHAPED ARROWzwPCbL FUNCTIONAL SYMBOL ALPHAa UN
DERBARoBACKSLASH BARnCIRCLE BACKSLASHjDIAERESISjJOTdSTARcILEfUNDERBARoOMMA BARjDEL DIAERESISjSTILEfT
ILDEgTA STILEfUNDERBARnIAMOND UNDERBARpOWN CARET TILDElSHOE STILEkTACK JOTdUNDERBARoWARDS VANEoEPSIL
ON UNDERBARqGREATER-THAN DIAERESISwI-BEAMfOTAa UNDERBARnJOT DIAERESISjUNDERBARmLEFT SHOE STILElWARDS
 VANEoOMEGAa UNDERBARoQUADa BACKSLASHjCIRCLEfOLONfDELaTAeIAMONDfVIDEfOWN CARETgWARDS ARROWpEQUALfGRE
ATER-THANmJOTdLEFTWARDS ARROWnSS-THANjNOT EQUALjQUESTIONiRIGHTWARDS ARROWqSLASHfUP CARETgWARDS ARROW
qOTE QUADeUNDERBARoRHOcIGHTWARDS VANEpSEMICOLON UNDERBARrLASH BARiQUISH QUADkTAR DIAERESISmILE TILDE
lTILDE DIAERESISpUP CARET TILDElSHOE JOTiTACK DIAERESISjJOTdOVERBARnWARDS VANEmZILDEzOLLONeSTROPHEiP
LICATION PROGRAM COMMANDyROACHES THE LIMITpXIMATELY BUT NOT ACTUALLY EQUAL TOzEQUAL OR EQUAL TOlTOa
 OR THE IMAGE OFzmQUARIUShRABIC BASELINE ROUND DOTsCOMMAeURLY DAMMAaTANiFATHAaTANiKASRAaTANoDAMMAa I
SOLATED FORMnMEDIAL FORMlWITH DOTjTANa ISOLATED FORMuTE SEPARATORnECIMAL SEPARATORqISPUTED END OF AY
AHtOUBLE RIGHT ARROWHEAD ABOVEa WITH DOTzgD MADDAnEMPTY CENTRE HIGH STOPjLOW STOPuND OF AYAHeTEXT MA
RKqFATHAa ISOLATED FORMnMEDIAL FORMlWITH DOT ABOVEjRINGeTWO DOTSoTANa ISOLATED FORMvIVE POINTED STAR
qOOTNOTE MARKERoULL STOPjHALF MADDA OVER MADDAtMZA ABOVEfBELOWlINVERTED DAMMAoKASRAa ISOLATED FORMnM
EDIAL FORMlWITH DOT BELOWpTANa ISOLATED FORMwLARGE CIRCLE BELOWmROUND DOT ABOVEfBELOWfINSIDE CIRCLE
 BELOWzjEFT ARROWHEAD ABOVEfBELOWsTTER AEbFRICAN FEHdNOONeQAFa WITH THREE DOTS ABOVEzhINa FINAL FORM
kINITIAL FORMlSOLATED FORMnMEDIAL FORMlWITH THREE DOTS ABOVEfBELOWfPOINTING DOWNWARDS ABOVEzjWO DOTS
 ABOVEfVERTICALLY ABOVEziLEFa FINAL FORMkISOLATED FORMnMAKSURAa FINAL FORMkISOLATED FORMvWASLAa FINA
L FORMkISOLATED FORMsITH ATTACHED BOTTOM RIGHT KASRAa AND DOT ABOVEjLEFT RINGzhFATHAfKASRAfLEFT HAMZ
AfROUND DOToRIGHT HAMZAfROUND DOToOUND DOT ABOVEfBELOWpTOP RIGHT FATHAa AND DOT ABOVEjLEFT RINGznDOT
 ABOVEjEXTENDED ARABIC-INDIC DIGIT THREE ABOVEkWO ABOVEzmHAMZA ABOVEa FINAL FORMkISOLATED FORMtBELOW
a FINAL FORMkISOLATED FORMzLEFT MIDDLE STROKEsMADDA ABOVEa FINAL FORMkISOLATED FORMzRIGHT MIDDLE STR
OKEa AND DOT ABOVEjLEFT RINGziWAVY HAMZA ABOVEfBELOWzbBEEHa FINAL FORMkINITIAL FORMlSOLATED FORMnMED
IAL FORMoHa FINAL FORMkINITIAL FORMlSOLATED FORMnMEDIAL FORMlWITH DOT BELOW AND THREE DOTS ABOVEzfHA
MZA ABOVElINVERTED SMALL V BELOWwSMALL MEEM ABOVEkVa BELOWnTHREE DOTS HORIZONTALLY BELOWsPOINTING UP
WARDS BELOWa AND TWO DOTS ABOVEzzbWO DOTS BELOW AND DOT ABOVEzjEHa FINAL FORMkINITIAL FORMlSOLATED F
ORMnMEDIAL FORMrDADa FINAL FORMkINITIAL FORMlSOLATED FORMnMEDIAL FORMlWITH DOT BELOWqHALa FINAL FORM
kISOLATED FORMrLa FINAL FORMkISOLATED FORMnWITH DOT BELOWa AND SMALL TAHxFOUR DOTS ABOVEpINVERTED SM
ALL V BELOWnVkRINGeTHREE DOTS ABOVE DOWNWARDSpBELOWpWO DOTS VERTICALLY BELOW AND SMALL TAHzwDAHALa F
INAL FORMkISOLATED FORMrLa FINAL FORMkISOLATED FORMrOTLESS BEHdFEHdQAFkULa FINAL FORMkISOLATED FORMq
YEHa FINAL FORMkINITIAL FORMlSOLATED FORMnMEDIAL FORMqEa FINAL FORMkINITIAL FORMlSOLATED FORMnMEDIAL
 FORMnFARSI YEHa FINAL FORMkINITIAL FORMlSOLATED FORMnMEDIAL FORMlWITH EXTENDED ARABIC-INDIC DIGIT F
OUR BELOWkTHREE ABOVEkWO ABOVEzmINVERTED VkTHREE DOTS ABOVEpWO DOTS ABOVEzdEHa FINAL FORMkINITIAL FO
RMlSOLATED FORMnMEDIAL FORMlWITH DOT BELOWa AND THREE DOTS ABOVEzbMOVED BELOWpTHREE DOTS BELOWfPOINT
ING UPWARDS BELOWzhWO DOTS BELOWxGAFa FINAL FORMkINITIAL FORMlSOLATED FORMnMEDIAL FORMlWITH INVERTED
 STROKEpRINGeTHREE DOTS ABOVEpWO DOTS BELOWwHAINa FINAL FORMkINITIAL FORMlSOLATED FORMnMEDIAL FORMlW
ITH DOT BELOWjTHREE DOTS ABOVEzbRAFdUEHa FINAL FORMkINITIAL FORMlSOLATED FORMnMEDIAL FORMqHAHa FINAL
 FORMkINITIAL FORMlSOLATED FORMnMEDIAL FORMlWITH EXTENDED ARABIC-INDIC DIGIT FOUR BELOWznHAMZA ABOVE
lINVERTED SMALL V BELOWwSMALL ARABIC LETTER TAH ABOVEeND TWO DOTSmBELOWzeTHREE DOTS ABOVEfPOINTING U
PWARDS BELOWzhWO DOTS ABOVEfVERTICAL ABOVEzfMZAa ISOLATED FORMsEHa DOACHASHMEEa FINAL FORMkINITIAL F
ORMlSOLATED FORMnMEDIAL FORMxFINAL FORMkGOALa FINAL FORMkINITIAL FORMlSOLATED FORMnMEDIAL FORMlWITH
 HAMZA ABOVEvINITIAL FORMlSOLATED FORMnMEDIAL FORMlWITH INVERTED VkYEH ABOVEa FINAL FORMkISOLATED FO
RMzgIGH HAMZAa ALEFeWAWdYEHoJEEMa FINAL FORMkINITIAL FORMlSOLATED FORMnMEDIAL FORMlWITH THREE DOTS A
BOVEfBELOWpWO DOTS ABOVEwHa FINAL FORMkISOLATED FORMrKAFa FINAL FORMkINITIAL FORMlSOLATED FORMnMEDIA
L FORMlWITH DOT ABOVEfBELOWjRINGeTHREE DOTS BELOWpWO DOTS ABOVEvSHMIRI YEHlEHEHa FINAL FORMkINITIAL
 FORMlSOLATED FORMnMEDIAL FORMlWITH DOT ABOVEjSMALL VhTHREE DOTS ABOVEfBELOWfPOINTING UPWARDS BELOWz
hWO DOTS ABOVEfVERTICALLY BELOWzkHAHa FINAL FORMkINITIAL FORMlSOLATED FORMnMEDIAL FORMpIRGHIZ OEa FI
NAL FORMkISOLATED FORMqYUa FINAL FORMkISOLATED FORMyLAMa FINAL FORMkINITIAL FORMlSOLATED FORMnMEDIAL
 FORMlWITH BARdDOT ABOVEhUBLE BARkSMALL ARABIC LETTER TAH ABOVExVhTHREE DOTS ABOVEfBELOWyOW ALEFiMAR
KdEEMa FINAL FORMkINITIAL FORMlSOLATED FORMnMEDIAL FORMlWITH DOT ABOVEfBELOWjTHREE DOTS ABOVEzbNGa F
INAL FORMkINITIAL FORMlSOLATED FORMnMEDIAL FORMmOEHa FINAL FORMkINITIAL FORMlSOLATED FORMnMEDIAL FOR
MqOONa FINAL FORMkGHUNNAa FINAL FORMkISOLATED FORMuINITIAL FORMlSOLATED FORMnMEDIAL FORMlWITH DOT BE
LOWjINVERTED SMALL VqRINGeSMALL TAHdVhTHREE DOTS ABOVEpWO DOTS BELOWxYEHa FINAL FORMkINITIAL FORMlSO
LATED FORMnMEDIAL FORMqOEa FINAL FORMkISOLATED FORMqPEHa FINAL FORMkINITIAL FORMlSOLATED FORMnMEDIAL
 FORMlWITH SMALL MEEM ABOVEkVnEHa FINAL FORMkINITIAL FORMlSOLATED FORMnMEDIAL FORMrQAFa FINAL FORMkI
NITIAL FORMlSOLATED FORMnMEDIAL FORMlWITH DOT ABOVEfBELOWa AND NO DOTS ABOVEzcTHREE DOTS ABOVEzREHa
 FINAL FORMkISOLATED FORMnWITH DOT BELOWa AND DOT ABOVExFOUR DOTS ABOVEpHAMZA ABOVElINVERTED VkLOOPe
RINGeSMALL ARABIC LETTER TAH AND TWO DOTSzfNOON ABOVEkVa BELOWmTROKEgTWO DOTS ABOVEfVERTICALLY ABOVE
ziNOONa FINAL FORMkINITIAL FORMlSOLATED FORMnMEDIAL FORMqOHINGYA YEHlREHa FINAL FORMkISOLATED FORMsS
ADa FINAL FORMkINITIAL FORMlSOLATED FORMnMEDIAL FORMlWITH THREE DOTS ABOVEfBELOWpWO DOTS BELOWwEENa
 FINAL FORMkINITIAL FORMlSOLATED FORMnMEDIAL FORMlWITH DOT BELOW AND DOT ABOVExEXTENDED ARABIC-INDIC
 DIGIT FOUR ABOVEznFOUR DOTS ABOVEpINVERTED VkSMALL ARABIC LETTER TAH AND TWO DOTSzlTHREE DOTS BELOW
a AND THREE DOTS ABOVEzlWO DOTS VERTICALLY ABOVEzjHEENa FINAL FORMkINITIAL FORMlSOLATED FORMnMEDIAL
 FORMlWITH DOT BELOWtTRAIGHT WAWlUPERSCRIPT ALEFpWASH KAFjTAHa FINAL FORMkINITIAL FORMlSOLATED FORMn
MEDIAL FORMlWITH DOT BELOWjTHREE DOTS ABOVEfBELOWpWO DOTS ABOVEwCHEHa FINAL FORMkINITIAL FORMlSOLATE
D FORMnMEDIAL FORMlWITH DOT ABOVEjSMALL VnEHa FINAL FORMkINITIAL FORMlSOLATED FORMnMEDIAL FORMsEHa F
INAL FORMkINITIAL FORMlSOLATED FORMnMARBUTAa FINAL FORMkGOALeISOLATED FORMuEDIAL FORMlWITH RINGeSMAL
L TEH ABOVEjVhTHREE DOTS ABOVE DOWNWARDSzhEHa FINAL FORMkINITIAL FORMlSOLATED FORMnMEDIAL FORMqHALa
 FINAL FORMkISOLATED FORMqEHa FINAL FORMkINITIAL FORMlSOLATED FORMnMEDIAL FORMoIN YEHhTEHa FINAL FOR
MkINITIAL FORMlSOLATED FORMnMEDIAL FORMlWITH SMALL VnEHa FINAL FORMkINITIAL FORMlSOLATED FORMnMEDIAL
 FORMsUa FINAL FORMkISOLATED FORMnWITH HAMZA ABOVEa ISOLATED FORMzgIGHUR KAZAKH KIRGHIZ ALEF MAKSURA
 INITIAL FORMmMEDIAL FORMzvVEa FINAL FORMkISOLATED FORMoHa FINAL FORMkINITIAL FORMlSOLATED FORMnMEDI
AL FORMpWAWa FINAL FORMkISOLATED FORMnWITH DOT ABOVEfWITHINkEXTENDED ARABIC-INDIC DIGIT THREE ABOVEk
WO ABOVEzmHAMZA ABOVEa FINAL FORMkISOLATED FORMzRINGeTWO DOTS ABOVExYEHa BARREEa FINAL FORMkISOLATED
 FORMnWITH EXTENDED ARABIC-INDIC DIGIT THREE ABOVEkWO ABOVEzmHAMZA ABOVEa FINAL FORMkISOLATED FORMzm
FINAL FORMkINITIAL FORMlSOLATED FORMnMEDIAL FORMlWITH HAMZA ABOVEa FINAL FORMkINITIAL FORMlSOLATED F
ORMnMEDIAL FORMxSMALL VhTAILdHREE DOTS BELOWpWO DOTS BELOW AND DOT ABOVEjHAMZA ABOVElSMALL NOON ABOV
EzsUa FINAL FORMkISOLATED FORMqZAHa FINAL FORMkINITIAL FORMlSOLATED FORMnMEDIAL FORMnINa FINAL FORMk
ISOLATED FORMnWITH INVERTED V ABOVEzhIGATURE AIN WITH ALEF MAKSURA FINAL FORMkISOLATED FORMzbJEEM IN
ITIAL FORMlSOLATED FORMnWITH MEEM FINAL FORMkINITIAL FORMzcMEEM INITIAL FORMlSOLATED FORMnWITH ALEF
 MAKSURA FINAL FORMxMEEM FINAL FORMkINITIAL FORMrYEH FINAL FORMyYEH FINAL FORMkISOLATED FORMzKBAR IS
OLATED FORMsLAYHAA AS-SALAAMmE ISOLATED FORMpI AS-SALAAMbTU WAS-SALAAMwM AS-SALAAMkAA AS-SALAAMrEF M
AKSURA WITH SUPERSCRIPT ALEF FINAL FORMkISOLATED FORMzsWITH FATHATAN FINAL FORMkISOLATED FORMzfLAH I
SOLATED FORMsZZA WA JALLmBEH WITH ALEF MAKSURA FINAL FORMkISOLATED FORMzbHAH INITIAL FORMlSOLATED FO
RMnWITH YEH FINAL FORMwEH INITIAL FORMmMEDIAL FORMpJEEM INITIAL FORMlSOLATED FORMsKHAH INITIAL FORMl
SOLATED FORMnWITH YEH FINAL FORMyMEEM FINAL FORMkINITIAL FORMlSOLATED FORMnMEDIAL FORMqNOON FINAL FO
RMpREH FINAL FORMoYEH FINAL FORMkISOLATED FORMrZAIN FINAL FORMxISMILLAH AR-RAHMAN AR-RAHEEMzeDAD WIT
H ALEF MAKSURA FINAL FORMkISOLATED FORMzbHAH INITIAL FORMlSOLATED FORMnWITH ALEF MAKSURA FINAL FORMx
YEH FINAL FORMxJEEM INITIAL FORMlSOLATED FORMsKHAH INITIAL FORMlSOLATED FORMnWITH MEEM FINAL FORMkIN
ITIAL FORMzcMEEM INITIAL FORMlSOLATED FORMsREH FINAL FORMkISOLATED FORMrYEH FINAL FORMkISOLATED FORM
zbFEH WITH ALEF MAKSURA FINAL FORMkISOLATED FORMzbHAH INITIAL FORMlSOLATED FORMrJEEM INITIAL FORMlSO
LATED FORMsKHAH INITIAL FORMlSOLATED FORMnWITH MEEM FINAL FORMkINITIAL FORMzcMEEM INITIAL FORMlSOLAT
ED FORMnWITH YEH FINAL FORMyYEH FINAL FORMkISOLATED FORMzbGHAIN WITH ALEF MAKSURA FINAL FORMkISOLATE
D FORMzbJEEM INITIAL FORMlSOLATED FORMsMEEM INITIAL FORMlSOLATED FORMnWITH ALEF MAKSURA FINAL FORMxM
EEM FINAL FORMpYEH FINAL FORMyYEH FINAL FORMkISOLATED FORMzdHAH WITH ALEF MAKSURA FINAL FORMkISOLATE
D FORMzbJEEM INITIAL FORMlSOLATED FORMnWITH YEH FINAL FORMyMEEM INITIAL FORMlSOLATED FORMnWITH ALEF
 MAKSURA FINAL FORMxYEH FINAL FORMyYEH FINAL FORMkISOLATED FORMzEH WITH ALEF MAKSURA ISOLATED FORMzb
JEEM INITIAL FORMlSOLATED FORMsMEEM INITIAL FORMlSOLATED FORMnWITH JEEM INITIAL FORMrMEEM INITIAL FO
RMzcSUPERSCRIPT ALEF INITIAL FORMzeYEH ISOLATED FORMzbJALLAJALALOUHOUoEEM WITH ALEF MAKSURA FINAL FO
RMkISOLATED FORMzbHAH INITIAL FORMlSOLATED FORMnWITH ALEF MAKSURA FINAL FORMxYEH FINAL FORMxMEEM INI
TIAL FORMlSOLATED FORMnWITH ALEF MAKSURA FINAL FORMxHAH FINAL FORMkINITIAL FORMqYEH FINAL FORMyYEH F
INAL FORMkISOLATED FORMzcKAF WITH ALEF FINAL FORMkISOLATED FORMnMAKSURA FINAL FORMkISOLATED FORMzbHA
H INITIAL FORMlSOLATED FORMrJEEM INITIAL FORMlSOLATED FORMsKHAH INITIAL FORMlSOLATED FORMsLAM FINAL
 FORMkINITIAL FORMlSOLATED FORMnMEDIAL FORMpMEEM FINAL FORMkINITIAL FORMlSOLATED FORMnMEDIAL FORMlWI
TH MEEM FINAL FORMkINITIAL FORMrYEH FINAL FORMyYEH FINAL FORMkISOLATED FORMzHAH WITH ALEF MAKSURA FI
NAL FORMkISOLATED FORMzbHAH ISOLATED FORMrJEEM INITIAL FORMlSOLATED FORMsMEEM INITIAL FORMlSOLATED F
ORMsYEH FINAL FORMkISOLATED FORMzcLAM WITH ALEF FINAL FORMkISOLATED FORMnMAKSURA FINAL FORMkISOLATED
 FORMvWITH HAMZA ABOVE FINAL FORMkISOLATED FORMtBELOW FINAL FORMkISOLATED FORMzMADDA ABOVE FINAL FOR
MkISOLATED FORMzkHAH INITIAL FORMlSOLATED FORMnWITH ALEF MAKSURA FINAL FORMxMEEM FINAL FORMkINITIAL
 FORMrYEH FINAL FORMwEH INITIAL FORMqJEEM INITIAL FORMlSOLATED FORMnWITH JEEM FINAL FORMkINITIAL FOR
MrMEEM FINAL FORMkINITIAL FORMrYEH FINAL FORMyKHAH INITIAL FORMlSOLATED FORMnWITH MEEM FINAL FORMkIN
ITIAL FORMzcMEEM FINAL FORMkINITIAL FORMlSOLATED FORMnMEDIAL FORMlWITH HAH FINAL FORMkINITIAL FORMqY
EH FINAL FORMyYEH FINAL FORMkISOLATED FORMzbMEEM WITH ALEF FINAL FORMkMAKSURA ISOLATED FORMzbHAH INI
TIAL FORMlSOLATED FORMnWITH JEEM INITIAL FORMrMEEM INITIAL FORMrYEH FINAL FORMxJEEM INITIAL FORMlSOL
ATED FORMnWITH HAH INITIAL FORMqKHAH INITIAL FORMrMEEM INITIAL FORMrYEH FINAL FORMyKHAH INITIAL FORM
lSOLATED FORMnWITH JEEM INITIAL FORMrMEEM INITIAL FORMrYEH FINAL FORMyMEEM FINAL FORMkINITIAL FORMlS
OLATED FORMnWITH YEH FINAL FORMyYEH ISOLATED FORMzbOHAMMAD ISOLATED FORMwNOON WITH ALEF MAKSURA FINA
L FORMkISOLATED FORMzbHAH INITIAL FORMlSOLATED FORMnWITH ALEF MAKSURA FINAL FORMxMEEM INITIAL FORMrY
EH FINAL FORMwEH INITIAL FORMmMEDIAL FORMpJEEM INITIAL FORMlSOLATED FORMnWITH ALEF MAKSURA FINAL FOR
MxHAH FINAL FORMkINITIAL FORMqMEEM FINAL FORMkINITIAL FORMrYEH FINAL FORMyKHAH INITIAL FORMlSOLATED
 FORMsMEEM FINAL FORMkINITIAL FORMlSOLATED FORMnMEDIAL FORMlWITH ALEF MAKSURA FINAL FORMxYEH FINAL F
ORMyNOON FINAL FORMpREH FINAL FORMoYEH FINAL FORMkISOLATED FORMrZAIN FINAL FORMzQAF WITH ALEF MAKSUR
A FINAL FORMkISOLATED FORMzbHAH INITIAL FORMlSOLATED FORMrMEEM INITIAL FORMlSOLATED FORMnWITH HAH FI
NAL FORMkINITIAL FORMqMEEM FINAL FORMpYEH FINAL FORMyYEH FINAL FORMkISOLATED FORMyLA USED AS KORANIC
 STOP SIGN ISOLATED FORMzsUDDISA SIRRAHoRADI ALLAAHU ANHaAAcUMaAAdNNAsHIMAHU ALLAAHhM ALLAAHoSOUL IS
OLATED FORMtEH WITH SUPERSCRIPT ALEF ISOLATED FORMzoSAD WITH ALEF MAKSURA FINAL FORMkISOLATED FORMzb
HAH INITIAL FORMlSOLATED FORMnWITH HAH FINAL FORMkINITIAL FORMqYEH FINAL FORMxKHAH INITIAL FORMrMEEM
 INITIAL FORMlSOLATED FORMnWITH MEEM FINAL FORMkINITIAL FORMzcREH FINAL FORMkISOLATED FORMrYEH FINAL
 FORMkISOLATED FORMyLAAMUHU ALAYNAAnM ISOLATED FORMqLA ISOLATED FORMnUSED AS KORANIC STOP SIGN ISOLA
TED FORMzpLLAAHU ALAYHI WA-AALIHtHOU ALAYHE WASALLAMsU ALAYHI WAAALIHEE WA-SALLAMzlEEN WITH ALEF MAK
SURA FINAL FORMkISOLATED FORMzbHAH INITIAL FORMlSOLATED FORMnMEDIAL FORMlWITH JEEM INITIAL FORMzEH I
NITIAL FORMmMEDIAL FORMpJEEM INITIAL FORMlSOLATED FORMnMEDIAL FORMlWITH ALEF MAKSURA FINAL FORMxHAH
 INITIAL FORMzbKHAH INITIAL FORMlSOLATED FORMnMEDIAL FORMlWITH ALEF MAKSURA FINAL FORMxYEH FINAL FOR
MyMEEM INITIAL FORMlSOLATED FORMnMEDIAL FORMlWITH HAH FINAL FORMkINITIAL FORMqJEEM INITIAL FORMrMEEM
 FINAL FORMkINITIAL FORMzcREH FINAL FORMkISOLATED FORMrYEH FINAL FORMkISOLATED FORMzbHADDA WITH DAMM
A ISOLATED FORMnMEDIAL FORMmTAN ISOLATED FORMwFATHA ISOLATED FORMnMEDIAL FORMrKASRA ISOLATED FORMnME
DIAL FORMmTAN ISOLATED FORMwSUPERSCRIPT ALEF ISOLATED FORMzpEEN WITH ALEF MAKSURA FINAL FORMkISOLATE
D FORMzbHAH FINAL FORMkINITIAL FORMlSOLATED FORMnMEDIAL FORMlWITH MEEM FINAL FORMkINITIAL FORMrYEH F
INAL FORMwEH INITIAL FORMmMEDIAL FORMpJEEM FINAL FORMkINITIAL FORMlSOLATED FORMnMEDIAL FORMlWITH YEH
 FINAL FORMyKHAH FINAL FORMkINITIAL FORMlSOLATED FORMnMEDIAL FORMqMEEM FINAL FORMkINITIAL FORMlSOLAT
ED FORMnMEDIAL FORMlWITH KHAH FINAL FORMkINITIAL FORMrMEEM FINAL FORMkINITIAL FORMzcREH FINAL FORMkI
SOLATED FORMrYEH FINAL FORMkISOLATED FORMzcUBHAANAHU WA TAAALAAvTABAARAKA WA-TAAALAAsH WITH ALEF MAK
SURA FINAL FORMkISOLATED FORMzbHAH INITIAL FORMlSOLATED FORMrMEEM INITIAL FORMlSOLATED FORMnMEDIAL F
ORMlWITH HAH FINAL FORMkINITIAL FORMqMEEM INITIAL FORMrYEH FINAL FORMyYEH FINAL FORMkISOLATED FORMzE
H WITH ALEF MAKSURA FINAL FORMkISOLATED FORMzbHAH INITIAL FORMlSOLATED FORMnWITH JEEM FINAL FORMkINI
TIAL FORMrMEEM INITIAL FORMzEH INITIAL FORMmMEDIAL FORMpJEEM INITIAL FORMlSOLATED FORMnWITH ALEF MAK
SURA FINAL FORMxMEEM INITIAL FORMrYEH FINAL FORMyKHAH INITIAL FORMlSOLATED FORMnWITH ALEF MAKSURA FI
NAL FORMxMEEM INITIAL FORMrYEH FINAL FORMyMEEM FINAL FORMkINITIAL FORMlSOLATED FORMnMEDIAL FORMlWITH
 ALEF MAKSURA FINAL FORMxHAH INITIAL FORMqJEEM INITIAL FORMrKHAH INITIAL FORMrYEH FINAL FORMyNOON FI
NAL FORMpREH FINAL FORMoYEH FINAL FORMkISOLATED FORMrZAIN FINAL FORMxHAL WITH SUPERSCRIPT ALEF ISOLA
TED FORMznEH WITH ALEF MAKSURA FINAL FORMkISOLATED FORMzbHEH MEDIAL FORMpJEEM ISOLATED FORMsMEEM FIN
AL FORMkINITIAL FORMlSOLATED FORMnMEDIAL FORMqNOON FINAL FORMpREH FINAL FORMoYEH FINAL FORMkISOLATED
 FORMrZAIN FINAL FORMzUIGHUR KIRGHIZ YEH WITH HAMZA ABOVE WITH ALEF MAKSURA FINAL FORMkINITIAL FORMl
SOLATED FORMzzrWASALLAM ISOLATED FORMwYEH WITH ALEF MAKSURA FINAL FORMkISOLATED FORMzbHAH INITIAL FO
RMlSOLATED FORMnWITH YEH FINAL FORMvMZA ABOVE WITH AE FINAL FORMkISOLATED FORMpLEF FINAL FORMkISOLAT
ED FORMnMAKSURA FINAL FORMkISOLATED FORMzbE FINAL FORMkINITIAL FORMlSOLATED FORMpHAH INITIAL FORMlSO
LATED FORMqEH INITIAL FORMmMEDIAL FORMpJEEM INITIAL FORMlSOLATED FORMsKHAH INITIAL FORMrMEEM FINAL F
ORMkINITIAL FORMlSOLATED FORMnMEDIAL FORMqNOON FINAL FORMpOE FINAL FORMkISOLATED FORMqREH FINAL FORM
oU FINAL FORMkISOLATED FORMpWAW FINAL FORMkISOLATED FORMrYEH FINAL FORMkISOLATED FORMqU FINAL FORMkI
SOLATED FORMqZAIN FINAL FORMzgEH INITIAL FORMmMEDIAL FORMpJEEM INITIAL FORMlSOLATED FORMnWITH YEH FI
NAL FORMyKHAH INITIAL FORMlSOLATED FORMsMEEM FINAL FORMkINITIAL FORMlSOLATED FORMnMEDIAL FORMlWITH M
EEM FINAL FORMkINITIAL FORMrYEH FINAL FORMyNOON FINAL FORMpREH FINAL FORMoYEH FINAL FORMkISOLATED FO
RMrZAIN FINAL FORMyZAH WITH MEEM INITIAL FORMlSOLATED FORMnMEDIAL FORMzjMADDA WAAJIBhH ABOVEkRK NOON
 GHUNNAlSIDEWAYS NOON GHUNNAxTHEMATICAL AINcLEFeBEHdDADbLcOTLESS BEHdFEHdNOONeQAFjUBLE-STRUCK AINdBE
HdDADbLdFEHdGHAINfHAHdJEEMeKHAHeLAMdMEEMeNOONeQAFdREHdSADcEENdHEENfTAHcEHcHALcEHeWAWdYEHdZAHbINsFEHd
GHAINfHAHdINITIAL AINdBEHdDADdFEHdGHAINfHAHcEHdJEEMeKAFcHAHeLAMdMEEMeNOONeQAFdSADcEENdHEENfTEHcHEHeY
EHlJEEMeKAFcHAHeLAMcOOPED AINcLEFeBEHdDADbLdFEHdGHAINfHAHcEHdJEEMeKHAHeLAMdMEEMeNOONeQAFdREHdSADcEEN
dHEENfTAHcEHcHALcEHeWAWdYEHdZAHbINlMEEMeNOONeOPERATOR HAH WITH DALmMEEM WITH HAH WITH TATWEELzkQAFdR
EHdSADcEENdHEENeTRETCHED AINdBEHdDADcOTLESS BEHdFEHlFEHdGHAINfHAHcEHdJEEMeKAFcHAHeMEEMeNOONeQAFdSADc
EENdHEENfTAHcEHcHEHeYEHdZAHnTAHbILED AINdDADcOTLESS NOONeQAFlGHAINfHAHdJEEMeKHAHeLAMdNOONeQAFdSADcEE
NdHEENfYEHjEHcHALcEHeWAWdYEHdZAHbINrNUMBER MARK ABOVEkSIGNlOPEN DAMMATANiFATHATANiKASRATANnPERCENT S
IGNlIASTRE MARK ABOVErLACE OF SAJDAHoOETIC VERSE SIGNpUND MARK ABOVEqQUESTION MARKnRAISED ROUND DOTo
YcEVERSED DAMMAnIGHT ARROWHEAD ABOVEa WITH DOToBELOWuOUNDED HIGH STOP WITH FILLED CENTREzlSEMICOLONi
HADDAa ISOLATED FORMnMEDIAL FORMrIGN ALAYHE ASSALLAMpMISRAfRADI ALLAHOU ANHUpHMATULLAH ALAYHEsSAFHAd
LLALLAHOU ALAYHE WASSALLAMzbMVATeNAHeINDHI AMPERSANDjPOSTPOSITION MENxTAKHALLUSnMALL DAMMAfFARSI YEH
hTHAfHIGH AINdDOTLESS HEAD OF KHAHuFARSI YEHiOOTNOTE MARKERpJEEMeLAM ALEFhIGATURE ALEF WITH LAM WITH
 YEHwQAF WITH LAM WITH ALEF MAKSURAzfSAD WITH LAM WITH ALEF MAKSURAzoMADDAeEEM INITIAL FORMlSOLATED
 FORMsNOONa WITH KASRApQAFdROUNDED ZEROmSADcEENdIGN SAFHAkTAHcHREE DOTSkUPRIGHT RECTANGULAR ZEROyWAW
cORD AL-JUZfN-NISFgR-RUBfS-SAJDAhTH-THALATHAmQIFdSAHbKTAfWAQFAkYEHa BARREE WITH TWO DOTS BELOWzfZAHb
INjKASRAfLOW MEEMeNOON WITH KASRApSEENeWAWcORD IMAALAfSHMAAMhTASHEELqWAWdYEHiTART OF RUB EL HIZBtUBS
CRIPT ALEFmKUNa BELOWfISOLATED FORMnMEDIAL FORMpPERSCRIPT ALEF MOKHASSASzYMBOL DOT ABOVEfBELOWhUBLE
 VERTICAL BAR BELOWzFOUR DOTS ABOVEfBELOWpRINGeSMALL TAH ABOVEfBELOWpTHREE DOTS ABOVEfBELOWfPOINTING
 DOWNWARDS ABOVEfBELOWzjWO DOTS ABOVEfBELOWfVERTICALLY ABOVEfBELOWzWASLA ABOVEsTAIL FRAGMENTlTWEELa
 WITH FATHATAN ABOVEoOVERSTRUCK HAMZAfWAWoTWO DOTS BELOWzbHOUSANDS SEPARATORsONE LOOP ABOVEfBELOWkON
E DOT ABOVEfBELOWnTWO DOTS ABOVEfBELOWsRIPLE DOT PUNCTUATION MARKzbURNED DAMMA BELOWsVERTICAL TAILmO
WEL SIGN DOT BELOWjINVERTED SMALL V ABOVEwSMALL V ABOVEyWAVY HAMZA BELOWqZWARAKAYj-INDIC CUBE ROOTjD
IGIT EIGHTfFIVEdOUReNINEeONEdSEVENeIXdTHREEeWOdZEROkFOURTH ROOTlPER MILLE SIGNkTEN THOUSAND SIGNzhCb
IESdMENIAN ABBREVIATION MARKqPOSTROPHEkCAPITAL LETTER AYBdBENdCAbHAbEHdOcDAcECHcHbTcFEHdGHADdIMdHOcI
NIdJAbHEHeKEHbNdLIWNeMENdNOWdOHcPEHcIWReRAbEHdSEHcHAdTIWNdOcVEWcOcXEHdYIaWNeZAbHErOMMAfDRAM SIGNjEMP
HASIS MARKmXCLAMATION MARKqFULL STOPjHYPHENgMODIFIER LETTER LEFT HALF RINGzfQUESTION MARKnSMALL LETT
ER AYBdBENdCAbHAbEHdOcDAcECHcHbTcFEHdGHADdIMdHOcINIdJAbHEHeKEHbNdLIWNeMENdNOWdOHcPEHcIWReRAbEHdSEHcH
AdTIWNdObURNED AYBkVEWcOcXEHdYIa WITH STROKEmWNeZAbHEjIGATURE ECH YIWNiMEN ECHdINIdNOWdXEHhVEW NOWze
ROW POINTING DOWNWARDS THEN CURVING LEFTWARDSjRIGHTWARDSziRIGHTWARDS THEN CURVING DOWNWARDSjSOUTH WE
STkUPWARDSzgUPWARDS THEN NORTH WESTziHEAD-SHAPED POINTERwTICULATED LORRYnST PALETTEnSCENDING NODElIA
 SYMBOLkSERTIONhTERISKa OPERATORkMfONISHED FACEmRAEAdONOMICAL SYMBOL FOR URANUSzdYMPTOTICALLY EQUAL
 TOwTHLETIC SHOElOM SYMBOLkUBERGINEhSTRAL SIGNkTO RICKSHAWjMATED TELLER MACHINEtOBILEjVESTAN ABBREVI
ATION MARKrLETTER AaAaNbOcEaEcNbOcBEbHEdCEcDEbHEdEaEcFEcGEbGEcHEdHEbMEdIaIcJEcKEcLEcMEcNEbGEbVEcYEdN
EcYEdOaOcPEcREcSEbHEbYEdSHEeTEbHEcTEdUaUcVEcXEbVEcYEdYEbYEdZEbHEqOCADOgXEdBABYa ANGELfBOTTLEgCHICKfS
YMBOLjCK OF ENVELOPElWITH LEFTWARDS ARROW ABOVEzc-TILTED SHADOWED WHITE RIGHTWARDS ARROWzoSLANTED SO
UTH ARROW WITH HOOKED TAILjRIZONTAL TAILzoPACEgONcTRIAN CAMELmDGERdMINTON RACQUET AND SHUTTLECOCKzgG
ELcGAGE CLAIMkUETTE BREADmLINESE ADEG ADEGjCARIK PAMUNGKAHhRERENhSIKIkDIGIT EIGHTfFIVEdOUReNINEeONEd
SEVENeIXdTHREEeWOdZEROkLETTER AIKARAfKARAa TEDUNGlRCHAIC JNYAlSYURA SASAKmBAa KEMBANGkCAa LACAhDAa M
ADUdURDA ALPAPRANAjMAHAPRANAsEF SASAKhKARAfGAa GORAhHAcIKARAa TEDUNGmJAa JERAhKAa MAHAPRANAkF SASAKi
HOT SASAKkLAa LENGAa TEDUNGpMAcNAa RAMBATiGAcYAdOKARAa TEDUNGmPAa KAPALiRAa REPAa TEDUNGoSAa SAGAcPA
hTAa LATIKfMURDA MAHAPRANApTAWAgZIR SASAKkUKARAa TEDUNGmVE SASAKiWAcYAcZAL SASAKqMUSICAL SYMBOL COMB
INING BENDEfENDEPfGONGeJEGOGANhKEMPLIa WITH JEGOGANpULa WITH JEGOGANtTEGEHpDAENGdINGdNGa GEDEeSURANG
kENGcUNGeINGdONGdUNGeLEFT-HAND CLOSED PLAKcUKlOPEN PANGdINGdUNGtRIGHT-HAND CLOSED TAKcUKkOPEN DAGcUG
zjPAMADAa LANTANGlENENGgNTIa LANTANGnSIGN BISAHfCECEKfREREKANhSURANGgULU CANDRAgRICEMoVOWEL SIGN LA
 LENGAa TEDUNGpPEPETa TEDUNGmRA REPAa TEDUNGoSUKUa ILUTjTALINGa REPAa TEDUNGlTEDUNGmEDUNGgULUa SARIt
WINDUlL OF YARNiET SHOESiOONa-SPOKED ASTERISKsT BOLD SCRIPT XlXa WITH BALLOTfOLD CHECKfSCRIPT XnCHEC
KfLIGHT XhSCRIPT XiXkSCRIPT XiXgMUM COLONdMBINING MARK KOQNDONhTUKWENTISvMAfFULL STOPjLETTER AbEEcFA
AMAEfEEcOMcUcIbKAbENbTbUXdIbOaGHOMeVUUePAcUbYEEeLAbEEEEeIbOQcUcMaAbBAAcENdEEEEdNcIbObUcNAbDAAdGAbGAc
KWAENgIbJAEMdEEcUAEeSHAdTEEcUUdUaAEdYIdObPAbEEbUXdHASE-A FIRIeGBIEE FONiHEUAEGHEUAEgRAEjKAFAcQcETbUK
EUTNDAjPOQdUOQeLAPAQeET KUTgOMMAEfUaAEPfMAEKEUPeMaBGBIEEgKPENeVEUXfNYIdSIdNSUAEfP PIEETiBANYIdQdEUNJ
OMNDEUQlGBASAfON NGGEUAETkOMEUTdPUQgVEUAENGAMkNAA MFONgQcDA LEERAEWAjANGGEUAETlENcGANGUeGENdKUE MFON
fNZEUMjIKAdJAMdKAARAEfINDIfSHAbIEEfTAPa MFAAeNTAAhOQPENgYETcIaT MONGKEUAEQoZA MFONgUN MEUTjPA LEERAE
WAjAMbRAEeMSHAEfSHAEfETcON MFON PIPAEMBAcGBIEEqPA NJI PIPAEMBAcGBIEEvUPdROMdSEUNYAMgHINDA PA NJIkRAE
eOQ NSHUT YUMmUENSHUEThMdISAdONJAMeQbTcUUdTEUAENdTEUWENiITA MFONiU MAEMBAhAEPfU YUQ NAEiNKNOWNhVEEfB
 FEEbUXeGHEUGHENbUAEMlKAMcEUAEMdPUQdYEUXgIEEMdQdLAANAEeM NSHUT NYAMnETcOM NTEUMjMAa NJEUAENAgUQAhBA
 MAELEEhARAEfEURIeIT MBAAKETkUOQeEUQbT NGGEETkFIYAQeON TEUAEQkONTIEENiNDU NJAAhGGAAMdEU MBUgUOQa LAR
GEkKINDI MVOPkOMdSENcHUETfTIEE SHEUOQlYAEMAEfI NTEUMjPARUMeEESHIfITcUNGAAMhSAKEUAEgET TUfHET NJAQgUA
EQTUiIEEdUEdTAAMdU MAEMGBIEEjNSIEEiVEUMeWUAETfYAFU LEERAEWAmEURAEiC BUNGeFUEdGBAYIeHAPbRAEgKAAcEN FA
TIGUEhLAWfTbUKAQdMbSEUXdHEUAEPjPARAQfUOP NKAARAEkTdLAMbPcIQcUcMA KEUAERIhNSIEEgEMBAdSIeBAA CABBAGE-T
REEmPICKETiNYIeEEKEETfRAEdUMbXdIaRIEENfTcUAEMdEdGBASAQgIEEdUAEeNANSANAQgQcDAMbPcEUAEREEfTdIDAdOMBUfG
AQcGENcUaAEN NYAMiEETdMbONeKAQcUE MAEMBAkOMdJAEMcMcEEEEdUXdUEQeSAbEUAENfHAQdOMcUNbOT NGOMjTAAcENbUNG
BAgU MBIThYIR MKPARAQ MEUNqZAbEUMfPENcINbRIEENhRUcSETFONeUXdHIQcUEQeUAETfTAASHAEgETbUTEUXgITA YUEfUA
EPhVEUAEPENfXeWANGKUOQhUPdYAAcEUQdU MUOMAEhMbWOQhD FAAcEUFEUAETjGHAAcEUAEgKETbUAETMEUNhMbOT MBUAEiPd
UaNbOMcQcWAETeYEEeLEEEEdTbUAEPdMdIEEdOQcUMdMaAENJETfLEERIgBAAa SEVENiUOdEEEEdUNbTdFEUAEcTdIEEdOaNdGB
EUNdIEEdOFUMgONIdUbVOPeNDAMcEEbUXdONdGGAAMaAEePcEUXdUOMdWAENfKAPcEUAEQdRIeIEEdUNcYEEfIbJAPcEUAEMdTdI
aEEdUEQeSHEEcUTdIEEPbTeUMdTEEbUMdUUdUbYAMcETcIbUEePAPcEEbUTAEfIPcUQbUTeRAEMdEN MUCHeOLDgIIdSAPbQcEUA
EQfHEEbUAEcXdIIcOQcUcOTcUAEcEbUdTAEcEEEEdUAENdNbTdIbOQcUaOTeWAPcUAENfYAEMMAEgENcUOMbPcWOQhE AbFAaQcE
EcOMcU CALLeIbREMEDYhEaTeGBETbUXeHAAMAEfETbUAEcNbXdOMeIbKETbUAEcXdIbObPEUXeUETcOPcTdLAAMcPbQcEUAEMfO
MbONbTcQcUcMAaEaMcPbQcBEEbUMeENcFEUQeGBAbENeIaEEdONcUAEdVIdNAaEcDAA MY HOUSEiSOFTNESSkPcIAQcQcUNdGAb
EUREUTgGEEEEdUAEaTfUAESHAE NYAMlPbRAEfKAaAMIeEUAEMdXdUMbPdOPbQcUAEaTfJAEMLIfEEa EPOCHhUXeKOMdSHIEEdU
EbOPfTAPcUMdYI BETWEENhCLEAVERkZAQcUQeObPA PEOPLEfLURALhAaMdEEMcUTbXdIaEEQcTdOaONdUaAEbQcEbMdRAEbQcE
UXdIMGBAgSAAcEEbTcHEUAEQfIQcOaQdOMcUAENfTAAaQcEN NTEUMiMbQcENbUaAEQfOOaNcQcUAEcMaAEfVEEbUAEeOMdWEUXd
UEbOdYAPcEUAEaTdMbXdIEEcTcOQ COVERfSWIMMINGlUAENdEQcNbQfF EEcFOMdKAbENbTcObPAcUbYEEeLAbIbOQdMaAbBAAc
ENdEEEEeOcNDAAdGGAcKWAENgIbJAEMdUAEeSHAdTEEdUaAEdYIdPEEbUXdUAEeREEbNbUXdIEEcIcUcSAMBAeEUXdHIIcObUcIb
UUdTAAbEcETdUbVUEQeWAbUEdYAbOQkIbUAEcEdRAEcEEbNbUXdIEEcIcUcSAMBAeEUXdHEUXdIIcObUcIbUUdTAAbEcENbTcIcU
bWAbUEdYAbOQcUQkNJAEMLIhQUESTION MARKnSEMICOLONnNANAdJOcKaNOTE WITH DOLLAR SIGNlEURO SIGNjPOUND SIGN
kYEN SIGNuR CHARTfOF SOAPiBER POLEjSEBALLfKETaBALL AND HOOPqSA VAH COMBINING HIGH TONEf-LOW TONEnLOW
 TONEf-MID TONEmMID TONEsFULL STOPjLETTER AbBAcCEcDHIIdOcEaEbNNIeFAcGAHcBUdHWAHeIbJOcKAbPAHeMBEdOaOc
PAcSEcTOcUaWUdVUcWAaDDAfYEINdIEdZOrTaAK CONSONANT SIGN HbNGrLETTER AbBAcCAcDAcGAcHAcIbJAcKARO BAhLAc
MAaNDAILING HAcNAcSAmBAdNAbDAcGAcORTHERN TAkYAdPAaKPAK WAjRAcSAbIMALUNGUN AbGAcHAcLAcMAcPAcRAcSAcWAc
YAmOUTHERN TAlUbWAcYAjPANGOLATfONGONANkSIGN TOMPIjYMBOL BINDU JUDULfNA METEKiPANGOLAThINARBORASxVOWE
L SIGN EaEcIbKARO IbOgObPAKPAK EiUa FOR SIMALUNGUN SAziHaTUBeTERYgEACH WITH UMBRELLAqMED ASCENDING M
USICAL NOTESxDESCENDING MUSICAL NOTESyEIGHTH NOTESmSIXTEENTH NOTEStNScR FACEfDED PERSONlTING HEARTkV
EReCAUSEfDbER MUGfTLEeLaLa PEPPERgSYMBOLgWITH CANCELLATION STROKEzHOP BELLkNGALI ABBREVIATION SIGNqN
JIdU LENGTH MARKoCURRENCY DENOMINATOR SIXTEENtNUMERATOR FOUReONEa LESS THAN THE DENOMINATORzeTHREEeW
OwDIGIT EIGHTfFIVEdOUReNINEeONEdSEVENeIXdTHREEeWOdZEROkGANDA MARKkISSHARgLETTER AaAbIbUcBAbHAdCAbHAd
DAbDAbHAdHAdEbGAbHAdHAcIaIcJAbHAdKAbHAaNDA TAjLAcMAcNAbGAcNAcYAdObPAbHAdRAa WITH LOWER DIAGONALoMIDD
LE DIAGONALwHAcRAdSAbHAcSAdTAbHAcTAbHAeUaUcVEDIC ANUSVARAnOCALIC LaLcRaRkYAbYAkRUPEE MARKeSIGNkSANDH
I MARKkIGN ANUSVARAhVAGRAHAiCANDRABINDUlNUKTAfVIRAMAeSARGAmVOWEL SIGN AAbIbUcEbIaIcObUaUcVOCALIC LaL
cRaRzbT ARROW POINTING DOWNWARDS THEN NORTH EASTzqO BOXgZENE RINGa WITH CIRCLEwT SYMBOLhWEENfVERAGE
 BOXlHAIKSUKI DANDAeIGIT EIGHTfFIVEdOUReNINEeONEdSEVENeIXdTHREEeWOdZEROjOUBLE DANDAmGAP FILLER-1b2mH
UNDREDS UNIT MARKsLETTER AaAbIbUcBAbHAdCAbHAdDAbDAbHAdHAdEbGAbHAdHAcIaIcJAbHAdKAbHAdLAcMAcNAbGAcNAcY
AdObPAbHAdRAcSAbHAcSAdTAbHAcTAbHAeUaUcVAbOCALIC LbRaRkYAjNUMBER EIGHTaYgFIFTYdVEdORTYdUReNINEaTYgONE
dSEVENaTYgIXaTYfTENcHIRTYeREEeWENTYeOkSIGN ANUSVARAhVAGRAHAiCANDRABINDUlVIRAMAeSARGAmVOWEL SIGN AAbI
bUcEbIaIcObUaUcVOCALIC LbRaRvWORD SEPARATORxICYCLEbISThG REVERSE SOLIDUSpSOLIDUSjKINIeLLED CAPgIARDS
hOHAZARD SIGNmRDbTHDAY CAKElSONdTCOIN SIGNjING LIPjLACK BOWTIEgCENTRE WHITE STARqHESS BISHOPa ROTATE
D NINETY DEGREESoTWO HUNDRED SEVENTY DEGREESzrEQUIHOPPERa ROTATED NINETY DEGREESziKINGa ROTATED NINE
TY DEGREESoTWO HUNDRED SEVENTY DEGREESzoNIGHTa ROTATED FORTY-FIVE DEGREESsNINETY DEGREESoONE HUNDRED
 THIRTY-FIVE DEGREESzgTHREE HUNDRED FIFTEEN DEGREESzdWO HUNDRED SEVENTY DEGREESpTWENTY-FIVE DEGREESz
p-BISHOPgQUEENfROOKlPAWNa ROTATED NINETY DEGREESoTWO HUNDRED SEVENTY DEGREESzpQUEENa ROTATED NINETY
 DEGREESoTWO HUNDRED SEVENTY DEGREESzqROOKa ROTATED NINETY DEGREESoTWO HUNDRED SEVENTY DEGREESzpTURN
ED BISHOPgKINGdNIGHTgPAWNeQUEENfROOKqIRCLEa FOR RECORDkWITH DOWN ARROWkTWO WHITE DOTSoWHITE DOT RIGH
TzbLUB SUITiROSS ON SHIELDoURVED DOWNWARDS AND LEFTWARDS ARROWpRIGHTWARDS ARROWzfLEFTWARDS AND DOWNW
ARDS ARROWpUPWARDS ARROWzcRIGHTWARDS AND DOWNWARDS ARROWpUPWARDS ARROWzdUPWARDS AND LEFTWARDS ARROWp
RIGHTWARDS ARROWzkDIAMONDa CENTREDhMINUS WHITE XnON CROSSiSUITeWITH DOWN ARROWwOWN POINTING BACKHAND
 INDEXy-POINTING DOUBLE TRIANGLEpISOSCELES RIGHT TRIANGLEySMALL TRIANGLEoTRIANGLEsWARDS EQUILATERAL
 ARROWHEADzfRAUGHTS KINGeMANkOPLEThFLAGcORETTEhOLDEReUR POINTED STARrHARD SHELL FLOPPY DISKvEARTa SU
ITiXAGONgORIZONTAL ELLIPSEqURGLASSjLARGE CIRCLEgSQUARElEFT LANE MERGEkPOINTING BACKHAND INDEXoINDEXp
-POINTING DOUBLE TRIANGLEa WITH VERTICAL BARziISOSCELES RIGHT TRIANGLEyPOINTERhSMALL TRIANGLEoTRIANG
LEsWARDS BULLETgEQUILATERAL ARROWHEADzfOWER LEFT TRIANGLEnRIGHT TRIANGLEsZENGEhMEDIUM DIAMONDgOWN-PO
INTING TRIANGLEa CENTREDzfLEFT-POINTING TRIANGLEa CENTREDzeOZENGEhRIGHT-POINTING TRIANGLEa CENTREDzg
SMALL DIAMONDhLOZENGEhSQUARElQUAREgUP-POINTING TRIANGLEa CENTREDzjOON LILITHlNIBdOCTAGONhPARALLELOGR
AMmENNANTeTAGONhUSHPINhQUESTION MARK ORNAMENTwRECTANGLEiIGHT POINTING BACKHAND INDEXoINDEXp-POINTING
 DOUBLE TRIANGLEa WITH VERTICAL BARziISOSCELES RIGHT TRIANGLEyPENTAGONhOINTERhSMALL TRIANGLEoTRIANGL
Ea WITH DOUBLE VERTICAL BARzsWARDS ARROWaHEADjBULLETgEQUILATERAL ARROWHEADzgOSETTEhSAFETY SCISSORSoC
ISSORShHOGI PIECEkKULL AND CROSSBONEStLIGHTLY SMALL CIRCLEgSQUAREuMALL DIAMONDhLOZENGEhSQUAREfTARiIL
ING FACElNOWMANgPADE SUITjQUAREa BUTTONgCENTREDhFOR STOPoTARdUN WITH RAYSnTELEPHONEiINY DIAMONDhLOZE
NGEhSQUAREkOUCHTONE TELEPHONEsRUCKeWO-WAY LEFT WAY TRAFFICyUNIVERSAL RECYCLING SYMBOLzP POINTING BAC
KHAND INDEXy-POINTING DOUBLE TRIANGLEpISOSCELES RIGHT TRIANGLEySMALL TRIANGLEoTRIANGLEsPER LEFT TRIA
NGLEnRIGHT TRIANGLEsWARDS EQUILATERAL ARROWHEADzeVERTICAL ELLIPSEhRECTANGLEpY SMALL DIAMONDhLOZENGEh
SQUAREs-FEATHERED NORTH EAST ARROWqRIGHTWARDS ARROWqSOUTH EAST ARROWzbLETTER CAPITAL CbHbIbRbZtNK SY
MBOLkOCK SEXTANT-1a2a3a4a5b6c5a6c6c4a5a6c6c5a6c6c3a4a5a6c6c56c6c4a5a6c6c5a6c6c2a3a4a5a6c6c5a6c6c4a5a
6d5a6c6c3a4a5a6c6c5a6c6c4a5a6c6c5a6c6mSSOMeWFISHgUE BOOKeHEARTgBERRIESkOARcLD EIGHT SPOKED ASTERISKv
FIVE SPOKED ASTERISKuGREEK CROSSlSALTIREgIX SPOKED ASTERISKtWHITE CIRCLEgSQUAREpMaBcNEcOKaMARKa TABS
jScMERANGhPOMOFO FINAL LETTER GbHbKbPbToLETTER AaHbIaNNdMbNaGbNcUaNNeBaUcCaHcDbEaEbHbIbNaGbNcRcFbGaH
bNbUbWcHbIaHbMbNNaNdRbUcJaIcKaWcLaHcMbNaGaGcNcOa WITH DOT ABOVEpEbMbNGbNcObUcPbQbRbSaHcTbUaNNdVbXbZa
HbIbYqTTLE WITH POPPING CORKuOM ARC ANTICLOCKWISE ARROWxCURLY BRACKETnHALF BLACK CIRCLEmINTEGRALiLEF
T PARENTHESISqRIGHT PARENTHESISwLEFT CORNERfROPeHALF BRACKETrPARENTHESISlRIGHT CORNERfROPeHALF BRACK
ETsSQUARE BRACKETa OVER TOP SQUARE BRACKETznTORTOISE SHELL BRACKETzcUQUETa OF FLOWERSqW AND ARROWkL
 OF HYGIEIAkWITH SPOONlINGeTIEa WITH LEFT HALF BLACKpRIGHT HALF BLACKzbX DRAWINGS DOUBLE DOWN AND HO
RIZONTALkLEFTeRIGHToHORIZONTALkUP AND HORIZONTALkLEFTeRIGHTmVERTICALa AND HORIZONTALkLEFTeRIGHTxWN D
OUBLE AND HORIZONTAL SINGLErLEFT SINGLElRIGHT SINGLExHEAVY AND HORIZONTAL LIGHTqLEFT LIGHTfUP LIGHTn
RIGHT LIGHTfUP LIGHToUP HORIZONTAL LIGHTzeLIGHT AND HORIZONTAL HEAVYqLEFT HEAVYfUP HEAVYnRIGHT HEAVY
fUP HEAVYoUP HORIZONTAL HEAVYzeSINGLE AND HORIZONTAL DOUBLErLEFT DOUBLElRIGHT DOUBLEzdHEAVY DOUBLE D
ASH HORIZONTALkVERTICALsWNa AND HORIZONTALkLEFTeRIGHToHORIZONTALkLEFTa AND LIGHT RIGHTuQUADRUPLE DAS
H HORIZONTALkVERTICALxRIGHTfTRIPLE DASH HORIZONTALkVERTICALuUPa AND HORIZONTALkLEFTdIGHT DOWNkRIGHTm
VERTICALa AND HORIZONTALkLEFTeRIGHTyLEFT DOWN HEAVY AND RIGHT UP LIGHTzeHEAVY AND RIGHT DOWN LIGHTkU
P LIGHTiVERTICAL LIGHTzfLIGHT AND RIGHT DOWN HEAVYkUP HEAVYiVERTICAL HEAVYzfUP HEAVY AND RIGHT DOWN
 LIGHTziIGHT ARC DOWN AND LEFTeRIGHToUP AND LEFTeRIGHTqDIAGONAL CROSSfDIAMONDhMIDDLE LEFT TO LOWER C
ENTREa TO MIDDLE RIGHTzdUPPER CENTRE TO MIDDLE RIGHTa TO LOWER CENTREzzcRIGHT TO LOWER CENTREmUPPER
 CENTRE TO MIDDLE LEFT TO LOWER CENTREzzjUPPER CENTRE TO MIDDLE LEFTa AND MIDDLE RIGHT TO LOWER CENT
REzhTO LOWER CENTREa TO MIDDLE RIGHTzlRIGHTa AND MIDDLE LEFT TO LOWER CENTREzgTO LOWER CENTREa TO MI
DDLE LEFTzzdLEFT TO LOWER RIGHTtRIGHT TO LOWER LEFTziOUBLE DASH HORIZONTALkVERTICALsWNa AND HORIZONT
ALkLEFTeRIGHToHORIZONTALa WITH VERTICAL STROKEzgLEFTa AND HEAVY RIGHTuQUADRUPLE DASH HORIZONTALkVERT
ICALxRIGHTfTRIPLE DASH HORIZONTALkVERTICALuUPa AND HEAVY DOWNjORIZONTALkLEFTeRIGHTmVERTICALa AND HOR
IZONTALkLEFTeRIGHTyRIGHT DOWN HEAVY AND LEFT UP LIGHTzdHEAVY AND LEFT DOWN LIGHTkUP LIGHTiVERTICAL L
IGHTzeLIGHT AND LEFT DOWN HEAVYkUP HEAVYiVERTICAL HEAVYzeUP HEAVY AND LEFT DOWN LIGHTzjUP DOUBLE AND
 HORIZONTAL SINGLErLEFT SINGLElRIGHT SINGLExHEAVY AND DOWN HORIZONTAL LIGHTvHORIZONTAL LIGHTqLEFT DO
WN LIGHTkLIGHTkRIGHT DOWN LIGHTkLIGHTvLIGHT AND DOWN HORIZONTAL HEAVYvHORIZONTAL HEAVYqLEFT DOWN HEA
VYkHEAVYkRIGHT DOWN HEAVYkHEAVYvSINGLE AND HORIZONTAL DOUBLErLEFT DOUBLElRIGHT DOUBLEzbVERTICAL DOUB
LE AND HORIZONTAL SINGLErLEFT SINGLElRIGHT SINGLExHEAVY AND HORIZONTAL LIGHTqLEFT LIGHTkRIGHT LIGHTv
LIGHT AND HORIZONTAL HEAVYqLEFT HEAVYkRIGHT HEAVYvSINGLE AND HORIZONTAL DOUBLErLEFT DOUBLElRIGHT DOU
BLEzrING GLOVEkYaS SYMBOLkPHcRAHMI DANDAeIGIT EIGHTfFIVEdOUReNINEeONEdSEVENeIXdTHREEeWOdZEROjOUBLE D
ANDAmLETTER AaAbIbUcBAbHAdCAbHAdDAbDAbHAdHAdEbGAbHAdHAcIaIcJAbHAdKAbHAdLAbLAdMAcNAbGAcNAcYAdOaLD TAM
IL LLAbLAeNNNAeRRAdSHORT EbOrPAbHAdRAcSAbHAcSAdTAbHAcTAbHAeUaUcVAbOCALIC LaLcRaRkYAjNUMBER EIGHTaYgF
IFTYdVEdORTYdUReJOINERgNINEaTYgONEa HUNDREDhTHOUSANDmSEVENaTYgIXaTYfTENcHIRTYeREEeWENTYeOkPUNCTUATIO
N CRESCENT BARmDOTbUBLE DOTkLINEdOTUSrSIGN ANUSVARAiCANDRABINDUlJIHVAMULIYAlOLD TAMIL VIRAMAqUPADHMA
NIYAlVISARGAmVIRAMAfOWEL SIGN AAbIbUcBHATTIPROLU AAoEbIaIcOaLD TAMIL SHORT EbOrUaUcVOCALIC LaLcRaRzI
LLE PATTERN BLANKfDOTS-1a2a3a4a5a6a7a8c8c7a8c8c6a7a8c8c7a8c8c5a6a7a8c8c7a8c8c6a7a8c8c7a8c8c4a5a6a7a8
c8c7a8c8c6a7a8c8c7a8c8c5a6a7a8c8c7a8c8c6a7a8c8c7a8c8c3a4a5a6a7a8c8c7a8c8c6a7a8c8c7a8c8c5a6a7a8c8c7a8
c8c6a7a8c8c7a8c8c4a5a6a7a8c8c7a8c8c6a7a8c8c7a8c8c5a6a7a8c8c7a8c8c6a7a8c8c7a8c8c2a3a4a5a6a7a8c8c7a8c8
c6a7a8c8c7a8c8c5a6a7a8c8c7a8c8c6a7a8c8c7a8c8c4a5a6a7a8c8c7a8c8c6a7a8c8c7a8c8c5a6a7a8c8c7a8c8c6a7a8c8
c7a8c8c3a4a5a6a7a8c8c7a8c8c6a7a8c8c7a8c8c5a6a7a8c8c7a8c8c6a7a8c8c7a8c8c4a5a6a7a8c8c7a8c8c6a7a8c8c7a8
c8c5a6a7a8c8c7a8c8c6a7a8c8c7a8c8sNdEADbK PERMITTED HEREqST-FEEDINGlVEdICKcDE WITH VEILlGE AT NIGHTmE
FCASEeSeOCCOLIfKEN BARdCIRCLE WITH NORTHWEST ARROWzcHEARTjOMcWN HEARTkSbUBBLE TEAeSfCKETeGaINESE END
 OF SECTIONoLETTER AbBAcCAcDAcGAcHAcJAcKAcLAcMAbPAdNAbGAbKAdRAcYAbCAePAcRAcSAcTAcVAcYAjPALLAWAhVOWEL
 SIGN AEcEbIbObUtHID LETTER AbBAcDAcGAcHAcIbKAcLAcMAcNAbGAdPAcRAcSAcTAcUbWAcYAjVOWEL SIGN IbUqILDING
 CONSTRUCTIONtLLETa OPERATORlHORNa WITH SOUND WAVESvSEYEgRRITOfSa STOPfT IN SILHOUETTEoS IN SILHOUET
TErTTERaFLYiYTE ORDER MARKnZANTINE MUSICAL SYMBOL AGOGI ARGIbOTERIiGORGIbOTERIjMESIcTRIAgPOLI ARGIeG
ORGIpNATRICHISMAkTIKENOKYLISMAhMAjPESO EKFONITIKONkXO NEOlLIcODERMA ARCHAIONiNEOjSTROFOI SYNDESMOS N
EOnTELOUS ICHIMATOSsSa DIPLIfNEOlTHEMAhRGONbSYNTHETONlKTIKO DIcGAcKEcNIcPAcVOUdZOkCHAMILIbONgOREVMA
 ARCHAIONiNEOkROA KLITONgSPATHIgZYGOSlDASEIAfIARGONeSTOLI APLI MEGALIfIKRIkDIPLIfTHESEOSoESIS APLI D
YO DODEKATArDIGRAMMOS EX DODEKATAvMONOGRAMMOS TESSERA DODEKATAzdTETARTIMORIONmRIGRAMMOS OKTO DODEKAT
AvTIMORIONqFTOGGOS OUkGORGONa PARESTIGMENON ARISTERA ANOdKATOnDEXIAzRAMMA GGjPLIa ARCHAIONnYOdEKSTRE
PTONjLAFRONgNARXIS KAI FTHORA VOUuDOFONONiPEGERMAhTERON ARGOSYNTHETONnPARAKALESMArXO EKFONITIKONpFAN
EROSIS DIFONIASiMONOFONIASkTETRAFONIASuHTORA SKLIRON CHROMA VASISzbTHORA ARCHAIONa DEYTEROU ICHOUxDI
ATONIKI DIcKEcNANAdI ANOdKATOhPAcZOmENARMONIOS ANTIFONIAuI YFESIS TETARTIMORIONwMALAKON CHROMA DIFON
IASiMONOFONIASzNAOS ICHOSjENANOgSKLIRON CHROMA SYNAFIgVASISmDIATONON DIzbGENIKI DIESISgYFESISmORGON
 ARCHAIONiNEO ANOdKATOiPARESTIGMENON ARISTERAiDEXIAvSYNTHETONlTHMIKON N APLOUNgDIPLOUNtRONTHISMATAmI
CHADINgMIDIARGONhFONONeTHORAbONjSAKIA TELOUS ICHIMATOSvON ARCHAIONiNEOiKATAVA TROMIKONjSMAgHISTIhENT
IMA ARCHAIONiNEO ANOdKATOeMESOjTAa ARCHAIONiNEO ANOdKATOeMESOrLASMAa ANOdKATOkONTEVMAa ALLOlRONISfUF
ISMAhRATIMA ALLOdRCHAIONiNEOeTAdOKOUFISMAiYPORROONnEMASTIhYLISMAhLEIMMA DYO CHRONONlENOS CHRONOUmIMI
SEOS CHRONOUpTESSARON CHRONONpRION CHRONONsMOIeYGISMAhMARTYRIA ALLI DEYTEROS ICHOSoPROTOS ICHOSrDEYT
EROS ICHOSoLEGETOS ICHOSnPLAGIOS ICHOSfTETARTOS ICHOSvROTOS ICHOShVARYS ICHOSqTETARTOS ICHOSfLEGETOS
 ICHOSvRIFONIASgTOS ICHOSmVARYS ICHOStIKRON ISONlNANAeOLIGON ARCHAIONiNEOjMALONfXEIA DIPLIfEKFONITIK
ONlNEOeI ARCHAIONoYRANISMA ARCHAIONiNEOnPARAKALESMA ARCHAIONiNEOkLITIKIa ARCHAIONiNEOmICHONhELASTONa
 NEOkRISPOMENIjTASMAcTIbOKOUFISMAoIASMA ARCHAIONiNEOjSIFISTOLYGISMAhNa NEOfPARAKALESMAlSYNAGMAmLIbON
gRAPISMAgEVMAfSAXIMATAhEISMAa NEOjIMANSIS ARSEOSa DISIMOUhTETRASIMOUjRISIMOUpTHESEOSa DISIMOUhTETRAS
IMOUjRISIMOUyTAVROSa APODEXIAoIGMAeRAGGISMATAlYNAGMA ARCHAIONiMETA STAVROUmNEOiEVMAfRMAaTIKIjTELEIAe
SSERAfTRAPLIhHEMAa APLOUNhTISMOS ESOcXOmS KAI APOTHESoITAeINAGMAgRIAbGORGONgPLIeOMIKOLYGISMAhN ALLOd
RCHAIONiNEOfPARAKALESMAkSIFISTONjSYNAGMAoVAREIA DIPLIfEKFONITIKONlNEOeI ARCHAIONoTHYfXIRON KLASMAmYF
EN ANOdKATOgSIS APLI DYO DODEKATArDIGRAMMOS EX DODEKATAvMONOGRAMMOS TESSERA DODEKATAzdTRIGRAMMOS OKT
O DODEKATAvTIMORIONrPOKRISISa DIPLImRROIfSILIzgCACTUSeDA UNAfUCEUSgLENDARfL ME HANDkMERAa WITH FLASH
oPINGfNaADIAN SYLLABICS AaAaIbYcIaVILIK BiNbTHAPASCAN MbSlYcBEAVER DENE LbRmIBLE-CREE YlLACKFOOT AbE
bIbKAbEbIbOcNAbEbIbOcObSbWaAbEbIbOmCaAaAaIcRRIER CHAbEaEcIbObUdDEEbNE GEEfTAL ShIbLAbEaEcIbObUcZAbEa
EcIbObUdEEcGAaAcEaEcHAbEaEcIbObUcIbObUbWAbUdHaEEcIbWAbEaEcIbObUdIaNITIAL ZjJAbEaEcIbJAbEaEcIbObUcObU
bWAdKHAbEaEcIbObUcKaAbEaEcIbObUdLAbEaEcHAbEaEcIbObUcIbObUcMAbEaEcIbObUcNAbEaEcGbIbObUcPaAbEaEcIbObUc
RAbEaEcIbObUcSAbEaEcHaAbEaEcIbObUcIbObUcTHAbEaEcIbObUcLAbEaEcHAbEaEcIbObUcIbObUcSAbEaEcIbObUcTAbEaEc
IbObSAbEaEcIbObUcUdWAbEaEcIbObUcYAbEaEcIbObUcZaAbEaEcIbObUjEbHI SIGNhIaIcOaOcWAaAcEbIaIcOaOeEaASTERN
 WiNcFaAaAaIdEbIaIbNAL ACUTEfBOTTOM HALF RINGqDOUBLE ACUTEfSHORT VERTICAL STROKESzcWN TACKjGRAVEfMID
DLE DOTkPLUSeRAISED DOTjIGHT HALF RINGnNGeSHORT HORIZONTAL STROKEwMALL RINGkTOP HALF RINGsOaOcULL ST
OPiWAAeGLOTTAL STOPmHKbYPHENgIaIbNcKaAaAaIcYcEbIaIcOaOcWaAaAbYcEbIaIcOaOeLaAaAaIcYcEbHaAaAcIaIcOaOdI
aIcOaOcWAaAcEbIaIcOaOeMaAaAaIcYcEaDIAL LbRhHbIaIcOaOaSE-CREE SKmWAaAcEbIaIcOaOeNa-CREE THEbIaIkAaAaI
cSKAPI CWAAeKWAAeMWAAeNWAAeS-WcCWAdKWaAdPWAdTWAdWAAeTWAAeWAAcOOdYWAAkTTILIK HAaAcIaIcOaOdSHRAaAcIaIc
OaOmYcEbGaAaAaIcIcIaIcOaOdHbIaIcNGaAaAcIaIcOaOeOaObYcUNAVIK HaAaAcEbIaIcOaOgUT HiWAaAcEbIaIcOaOeOaJI
BWAY CbKbMbNaWIaIcOaOePbSaHcTiNbObYcPaAaAaIcYcEbIaIcOaObYcWAaAcEbIaIcOaObYeQaAaAaIcIcIaIcOaOdRa-CREE
 REbWEjAaAaIcYcEbIaIcOaOcWAaAcEEcIaIcOaOeSaAaAaIcYaISI HAbEbIbOaOdJIbUaUdMbSHAbEbIbOaOcWEeTHcYIiEbHa
AaAbYcEbIaIcOaObYcWAaAcEbIaIcOaObYeIaIcOaObUTH-SLAVEY KAHcEHcIHcOHoYcPAbEbIbOcWaAaAcEbIaIcOaOeTaAaAa
IcYcEbHa-CREE THaAaAcEbIaIcOaOkAaAcEbIaIcOaOcWAaAcEdIaIcLHAbEbIbOaOcWEeOaOcTAbEbHaAaAcEbIbOaOcWEdIbO
cWAaAcEbIaIcOaOdYAbEbIbOdWAaAbYcEaST-CREE CWAaAcEbIaIcOaOeFWAAeKWAaAcEbIaIcOaOeLaAaAcEbOaOcWAaAcEbIa
IcOaOeMaWAaAcEbIaIcOaOeNWAaAcEdPaWAaAcEbIaIcOaOeRaAbEbIbObWAAeSHWAaAcEbIaIcOaOeWAaAcEbIaIcOaOeTHWAAe
WAaAcEbIaIcOaOeWAaAcEbIaIcOaOdYaWAaAcEbIaIcOaOkERN WiIaIcOaOaDS-CREE FINAL THiTHaAbEbIbObWAaAcEEcIaI
cOaOqYa-CREE COOdKOOdLOOdMOOdNOOdOOcPOOcWAAeSOOdTOOdWbYOOjAaAaIcYcEbIaIcOaObYcWAaAcEbIaIcOaOuCELa CH
ARACTERjTAGeLATION XjRdDLEcYcNED FOODiOEdPITULUMgRICORNhR SLIDINGiD FILE BOXiINDEXa DIVIDERSqE OFdTa
 INSERTION POINTsIAN LETTER Aa2cBbC-18c39eDa2cEa2cGa2cIaIcKa2cLaDa2dMaBa2b3b4dNaDbGbNcObPa2cQbRaRcSa
Ha2cSbTa2dTaTa2dUaUaUa2b3bUeXmONbUSEL HORSElP STREAMERjENTRY SAWkRIAGE RETURNlOTeSTLEeTa FACEa WITH
 TEARS OF JOYmWRY SMILEvUCASIAN ALBANIAN CITATION MARKnLETTER ALTcORdBETdCARbYNdHAaTcIbOYdYAWbYeDATc
YANdZAYcYAYfEBbYNdFAMdGHEYSeIMdHEYTeINYAdRBcWNdJAYNdHOXeKARcIWdLANcYITeMAQdNOWCeONcPENcIWReQARbYdRAT
dSEYKdHAaKcOYeTAScIWRdYAYeVEYZeXEYNeYAYDdOWDeZARLdHAbILzcTION SIGNlCHcEDI SIGNfLLAfLTIC CROSSkNT SIG
NfRE LINE SYMBOLmLINE LOW LINEiOVERLINErRESeGJcHAINScRcKMA AU MARKhDANDAeIGIT EIGHTfFIVEdOUReNINEeON
EdSEVENeIXdTHREEeWOdZEROjOUBLE DANDAmLETTER AAcBAAcHAAeCAAcHAAeDAAcDAAcHAAeHAAeEbGAAcHAAeHAAdIbJAAcH
AAeKAAcHAAeLAAcHAAeMAAdNAAcGAAdNAAdYAAePAAcHAAeRAAdSAAdTAAcHAAdTAAcHAAfUbVAAdWAAdYAAcYAAlMAAYYAAhO M
ARKgQUESTION MARKnSECTION MARKlIGN ANUSVARAiCANDRABINDUlVISARGAmVIRAMAfOWEL SIGN AaAbIbUcEaIcIaIcOaI
cUaUrM CONSONANT SIGN FINAL HbMbNGiLAcRAcWAcYArDIGIT EIGHTfFIVEdOUReNINEeONEdSEVENeIXdTHREEeWOdZEROk
LETTER AaIcBAbBAcHAdCHAbHAeDAbDAcHAdEbFINAL CHcGbKbLbNaGcPbRbSScTbYhGAbHAdHAcIbJAbHAdKAbHAdLAcMAbUEd
NAbGAbUEdHAbJAcUEdUEdObPAbHAcPAdRAcSAbSAdTAbHAdUbVAcYAjPUNCTUATION DANDAeOUBLE DANDAmSPIRALgTRIPLE D
ANDAyVOWEL SIGN AAbIbUcEIcIaIcOaEcUaEpRACTER TABULATIONa SETdWITH JUSTIFICATIONzdIEjT WITH DOWNWARDS
 TRENDpUPWARDS TRENDa AND YEN SIGNzkECK MARKfER BOARDa FILLpERING MEGAPHONEoSE WEDGEjQUERED FLAGlROK
EE LETTER AbDAbEbIbLAcObUbVcEbGAbEbIbObUbVcHAbEbIbNAcObUbVcIbKAcLAbEbIbObUbVcMAbEbIbObUbVcNAaHcEbIbO
bUbVcObQUAbEbIbObUbVdSaAbEbIbObUbVcTAbEbIbLAbEbIbObUbVcSAbEbIbObUbVdUbVbWAbEbIbObUbVcYAbEbIbObUbVjSM
ALL LETTER AbDAbEbIbLAcObUbVcEbGAbEbIbObUbVcHAbEbIbNAcObUbVcIbKAcLAbEbIbObUbVcMAbEbIbObUbVcNAaHcEbIb
ObUbVcObQUAbEbIbObUbVdSaAbEbIbObUbVcTAbEbIbLAbEbIbObUbVcSAbEbIbObUbVdUbVbWAbEbIbObUbVcYAbEbIbObUbVuR
IESdY BLOSSOMlSTNUTgI RHOeCKENeLDaREN CROSSINGoPMUNKfRONeOCOLATE BARkPSTICKShRASMIAN LETTER ALEPHeYI
NeBETHeCURLED WAWkDALETHgGIMELfHEaTHeKAPHeLAMEDHgMEMdNUNdPEcRESHeSAMEKHfHINdMALL ALEPHlTAWdWAWdYODHe
ZAYINmNUMBER FOUReONEa HUNDREDlTENcHREEeWENTYeOtRISTMAS TREEmURCHfINEMAeRCLE DIVIDED BY HORIZONTAL B
AR AND TOP HALF DIVIDED BY VERTICAL BARzzmWITH ALL BUT UPPER LEFT QUADRANT BLACKziHORIZONTAL BARoLEF
T HALF BLACKoOWER HALF BLACKqRIGHT HALF BLACKqSMALL CIRCLE TO THE RIGHTyUPERIMPOSED XoTWO HORIZONTAL
 STROKES TO THE RIGHTzkUPPER HALF BLACKkRIGHT QUADRANT BLACKzbVERTICAL FILLtD ANTICLOCKWISE ARROWg-R
OTATED DIVISION SIGNzjSTERISK OPERATORrBOLD XfULLETgC WITH OVERLAID BACKSLASHyCbDbROSS FORMEEa WITH
 FOUR DOTSjTWO DOTSuPOMMEEhING LANESoDASHdIGIT EIGHTfFIVEdOUReNINEeONEdSEVENeIXdTHREEeWOdZEROiVISION
 SIGNdLASHnOLLAR SIGN WITH OVERLAID BACKSLASHziT OPERATORmEQUALSgGREATER-THANmHANGUL CHIEUCHa AiIEUC
a AhHIEUHa AhIEUNGa AbUhKHIEUKHa AiIYEOKa AiMIEUMa AhNIEUNa AhPHIEUPHa AiIEUPa AhRIEULa AhSIOSa AgTH
IEUTHa AiIKEUTa AoEAVY WHITE RIGHTWARDS ARROWzcORIZONTAL BAR WITH NOTCHyUMAN FIGUREmIDEOGRAPH ACCEPT
fDVANTAGEiLLIANCEhTTENTIONjCENTREfONGRATULATIONmPYcRRECThEARTHeIGHTeNTERPRISEjXCELLENTjFEMALEfINANCI
ALhREcVEdOUReHAVEdIGHeITEMeKINDERGARTENlOTOeLABOReEFTdOWdMALEdEDICINEgTALeOONeNAMEdIGHTdNEeONEdPRINT
fQUESTIONiRELIGIONgSOURCEfTdIGHTfSCHOOLfECRETeVENeIXcOCIETYgPECIALgTOCKdUDYeUITABLEgNbPERVISEjTENcHR
EEeWOdWATEReOODnNFORMATION SOURCErTALIC LATIN CAPITAL LETTER CbRzeKATAKANA AbEbHAbEbIbObUcIbKAbEbIbO
bUcMAbEbIbObUcNAbEbIbObUcObRAbEbIbObUcSAbEbIbObUcTAbEbIbObUcUbWAbEbIbOcYAbObUkOREAN CHARACTER CHAMKO
gJUEUIwLATIN CAPITAL LETTER AbBbCbDbEbFbGbHbIbJbKbLbMbNbObPbQbRbSbTbUbVbWbXbYbZqSMALL LETTER AbBbCbD
bEbFbGbHbIbJbKbLbMbNbObPbQbRbSbTbUbVbWbXbYbZtESS-THANjMINUSeULTIPLICATION SIGN WITH CIRCUMFLEX ACCEN
TzrNUMBER EIGHTEENdY ON BLACK SQUAREvLEVENgFIFTEENdYa ON BLACK SQUAREuORTYa EIGHTfFIVEdOUReNINEeON B
LACK SQUAREnEdSEVENeIXdTHREEeWOhURTEENiNINETEENiSEVENTEENdY ON BLACK SQUAREwIXTEENdY ON BLACK SQUARE
vTENa ON BLACK SQUAREsHIRTEENdYa EIGHTfFIVEdOUReNINEeON BLACK SQUAREnEdSEVENeIXdTHREEeWOjWELVEdNTYa
 EIGHTfFIVEdOUReNINEeON BLACK SQUAREnEdSEVENeIXdTHREEeWOrOPEN CENTRE EIGHT POINTED STARzfPARALLELhER
PENDICULARmLUSdOSTAL MARKlREVERSE SOLIDUSoING OPERATORnSQUAREgTIMESeRIANGLEa DOWNnVERTICAL BARmWHITE
 BULLETgSTARjZcXbZERO WITH SLASHtULATION FUNCTIONpMFLEX ACCENTmS TENTjTYSCAPEa AT DUSKqJK COMPATIBIL
ITY IDEOGRAPH-2F800b1b2b3b4b5b6b7b8b9bAbBbCbDbEbFc10b1b2b3b4b5b6b7b8b9bAbBbCbDbEbFc20b1b2b3b4b5b6b7b
8b9bAbBbCbDbEbFc30b1b2b3b4b5b6b7b8b9bAbBbCbDbEbFc40b1b2b3b4b5b6b7b8b9bAbBbCbDbEbFc50b1b2b3b4b5b6b7b8
b9bAbBbCbDbEbFc60b1b2b3b4b5b6b7b8b9bAbBbCbDbEbFc70b1b2b3b4b5b6b7b8b9bAbBbCbDbEbFc80b1b2b3b4b5b6b7b8b
9bAbBbCbDbEbFc90b1b2b3b4b5b6b7b8b9bAbBbCbDbEbFcA0b1b2b3b4b5b6b7b8b9bAbBbCbDbEbFcB0b1b2b3b4b5b6b7b8b9
bAbBbCbDbEbFcC0b1b2b3b4b5b6b7b8b9bAbBbCbDbEbFcD0b1b2b3b4b5b6b7b8b9bAbBbCbDbEbFcE0b1b2b3b4b5b6b7b8b9b
AbBbCbDbEbFcF0b1b2b3b4b5b6b7b8b9bAbBbCbDbEbFd900b1b2b3b4b5b6b7b8b9bAbBbCbDbEbFc10b1b2b3b4b5b6b7b8b9b
AbBbCbDbEbFc20b1b2b3b4b5b6b7b8b9bAbBbCbDbEbFc30b1b2b3b4b5b6b7b8b9bAbBbCbDbEbFc40b1b2b3b4b5b6b7b8b9bA
bBbCbDbEbFc50b1b2b3b4b5b6b7b8b9bAbBbCbDbEbFc60b1b2b3b4b5b6b7b8b9bAbBbCbDbEbFc70b1b2b3b4b5b6b7b8b9bAb
BbCbDbEbFc80b1b2b3b4b5b6b7b8b9bAbBbCbDbEbFc90b1b2b3b4b5b6b7b8b9bAbBbCbDbEbFcA0b1b2b3b4b5b6b7b8b9bAbB
bCbDbEbFcB0b1b2b3b4b5b6b7b8b9bAbBbCbDbEbFcC0b1b2b3b4b5b6b7b8b9bAbBbCbDbEbFcD0b1b2b3b4b5b6b7b8b9bAbBb
CbDbEbFcE0b1b2b3b4b5b6b7b8b9bAbBbCbDbEbFcF0b1b2b3b4b5b6b7b8b9bAbBbCbDbEbFdA00b1b2b3b4b5b6b7b8b9bAbBb
CbDbEbFc10b1b2b3b4b5b6b7b8b9bAbBbCbDfF900b1b2b3b4b5b6b7b8b9bAbBbCbDbEbFc10b1b2b3b4b5b6b7b8b9bAbBbCbD
bEbFc20b1b2b3b4b5b6b7b8b9bAbBbCbDbEbFc30b1b2b3b4b5b6b7b8b9bAbBbCbDbEbFc40b1b2b3b4b5b6b7b8b9bAbBbCbDb
EbFc50b1b2b3b4b5b6b7b8b9bAbBbCbDbEbFc60b1b2b3b4b5b6b7b8b9bAbBbCbDbEbFc70b1b2b3b4b5b6b7b8b9bAbBbCbDbE
bFc80b1b2b3b4b5b6b7b8b9bAbBbCbDbEbFc90b1b2b3b4b5b6b7b8b9bAbBbCbDbEbFcA0b1b2b3b4b5b6b7b8b9bAbBbCbDbEb
FcB0b1b2b3b4b5b6b7b8b9bAbBbCbDbEbFcC0b1b2b3b4b5b6b7b8b9bAbBbCbDbEbFcD0b1b2b3b4b5b6b7b8b9bAbBbCbDbEbF
cE0b1b2b3b4b5b6b7b8b9bAbBbCbDbEbFcF0b1b2b3b4b5b6b7b8b9bAbBbCbDbEbFdA00b1b2b3b4b5b6b7b8b9bAbBbCbDbEbF
c10b1b2b3b4b5b6b7b8b9bAbBbCbDbEbFc20b1b2b3b4b5b6b7b8b9bAbBbCbDbEbFc30b1b2b3b4b5b6b7b8b9bAbBbCbDbEbFc
40b1b2b3b4b5b6b7b8b9bAbBbCbDbEbFc50b1b2b3b4b5b6b7b8b9bAbBbCbDbEbFc60b1b2b3b4b5b6b7b8b9bAbBbCbDc70b1b
2b3b4b5b6b7b8b9bAbBbCbDbEbFc80b1b2b3b4b5b6b7b8b9bAbBbCbDbEbFc90b1b2b3b4b5b6b7b8b9bAbBbCbDbEbFcA0b1b2
b3b4b5b6b7b8b9bAbBbCbDbEbFcB0b1b2b3b4b5b6b7b8b9bAbBbCbDbEbFcC0b1b2b3b4b5b6b7b8b9bAbBbCbDbEbFcD0b1b2b
3b4b5b6b7b8b9zdRADICAL BAMBOOfLUEdOLT OF CLOTHlNEcXcRUSH ONEdTWOjC-SIMPLIFIED BIRDeCARTeDRAGONgEATcV
ENeFISHdLYcROGeGATEdOLDeHORSEfLEAFdONGeSALTdEEcHELLeILKdPEECHgTANNED LEATHERnOOTHeURTLEgWINDqHOKEeIT
YcVILIANhLIFFdOTHESgOWdDEATHeIVINATIONjOGdEAT ONEdTHREEeWOgWEcYEdFIREdOOTeGHOSTeRASS ONEdTHREEeWOjHA
NDdEADbRT ONEdTWOiORNeJ-SIMPLIFIED DRAGONgEVENeTOOTHeURTLEsADEeKNIFE ONEdTWOjLAME FOUReONEdTHREEeWOh
ONG ONEdTWOiMEATcSHdOONcRTAReTHEReUND ONEdTWOjNET FOUReONEdTHREEeWOhOLDdPAW ONEdTWOgERSONgRAINcMbPcE
PEATgSEALcCOND ONEdTHREEeWOjHEEPeILKcMPLIFIED HALF TREE TRUNKoORNeWALKdHEATfYELLOWqMALL ONEdTWOiNAKE
dOUT ONEdTWOiPIRIT ONEdTWOjUNdTABLEeHREADfIGEReURTLEgWALK ONEdTWOgTER ONEdTWOiEST ONEdTWOqSTROKE BXG
dDbHaGbPaWGdXWGdZaGbTbWaGcZaPbZaGfNbPaDbGbZcQbSaGbPbTbWaGbZcZaWGcZdTaNcWGcXGmLAMSHELL MOBILE PHONEtP
PER BOARDiING HANDS SIGNqSSICAL BUILDINGqEAR SCREEN SYMBOLrINKING BEER MUGSjGLASSESnPBOARDhOCK FACE
 EIGHT OCLOCKh-THIRTYlLEVEN OCLOCKh-THIRTYnFIVE OCLOCKh-THIRTYkOUR OCLOCKh-THIRTYlNINE OCLOCKh-THIRT
YlONE OCLOCKh-THIRTYkSEVEN OCLOCKh-THIRTYlIX OCLOCKh-THIRTYkTEN OCLOCKh-THIRTYjHREE OCLOCKh-THIRTYlW
ELVE OCLOCKh-THIRTYlO OCLOCKh-THIRTYqWISE CLOSED CIRCLE ARROWsONTOUR INTEGRALqDOWNWARDS AND UPWARDS
 OPEN CIRCLE ARROWSzpGAPPED CIRCLE ARROWtINTEGRALiOPEN CIRCLE ARROWrRIGHT AND LEFT SEMICIRCLE ARROWS
zcWARDS AND LEFTWARDS OPEN CIRCLE ARROWSa WITH CIRCLED ONE OVERLAYzzsTOP SEMICIRCLE ARROWtRIANGLE-HE
ADED OPEN CIRCLE ARROWzpSE UPdD BOOKeINTERSECTION WITH SERIFSyLOCK WITH KEYnMAILBOX WITH LOWERED FLA
GmRAISED FLAGySUBSETa OR EQUAL TOqPERSETa OR EQUAL TOuUMBRELLAhNION WITH SERIFSa AND SMASH PRODUCTzo
UDa WITH LIGHTNINGjRAINeSNOWeTORNADOpWN FACEjOATcCKROACHfTAIL GLASSlONUTfFFINeINcLLISION SYMBOLnONa
 EQUALSgSIGNiMBINING ACUTE ACCENTa BELOWmTONE MARKk-GRAVE-ACUTElMACRONlLMOST EQUAL TO ABOVEfBELOWuNN
UITY SYMBOLmTICLOCKWISE ARROW ABOVElRING OVERLAYzSTERISK ABOVEfBELOWoBINDU BELOWkREVEa BELOWg-MACRON
kIDGE ABOVEfBELOWmCANDRABINDUjRONa BELOWkEDILLAgIRCUMFLEX ACCENTa BELOWwLOCKWISE ARROW ABOVElRING OV
ERLAYvOMMA ABOVEa RIGHTlBELOWjNJOINING MACRONa BELOWwYRILLIC DASIA PNEUMATAoHUNDRED MILLIONS SIGNnTH
OUSANDS SIGNwKAVYKAgLETTER AbBEbIG YUShCHEdDEbJERVfEFbLbMbNbRbSa-TEfFITAeGHEdHAaRD SIGNjIaEbOTIFIED
 AbBIG YUShEkKAcLITTLE YUSkMONOGRAPH UKmOaMEGAfPEcSHAbCHAeOFT SIGNjTEbSEdUaKRAINIAN IEmVEcYATcERUdIb
UcZEbHEkMILLIONS SIGNnPALATALIZATIONmYEROKgOKRYTIEhSILI PNEUMATAoTEN MILLIONS SIGNqHOUSAND MILLIONS
 SIGNvITLOa LEFT HALFjRIGHT HALFqVZMEToDELETION MARKlVANAGARI DIGIT EIGHTfFIVEdOUReNINEeONEdSEVENeIX
dTHREEeWOdZEROkLETTER AbKAcNAcPAcRAcUbVIjSIGN AVAGRAHAxIAERESISa BELOWg-RINGnOT ABOVEa LEFTeRIGHTlBE
LOWa LEFTlTED ACUTE ACCENTmGRAVE ACCENTrUBLE ACUTE ACCENTmBREVEa BELOWlCIRCUMFLEX ABOVEqGRAVE ACCENT
mINVERTED BREVEa BELOWuLOW LINEiMACRONa BELOWmOPEN MARK BELOWoVERLINEiPARENTHESES ABOVEqLUS SIGN ABO
VEfBELOWpRIGHTWARDS ARROW BELOWuNG BELOWkTILDEa LEFT HALFjRIGHT HALFqVERTICAL LINE ABOVEfBELOWkSTROK
E OVERLAYyD CIRCUMFLEX ACCENTxWN TACK BELOWlWARDS ARROWpENCLOSING CIRCLEa BACKSLASHqDIAMONDhKEYCAPgS
CREENfQUAREgUPWARD POINTING TRIANGLEziQUALS SIGN BELOWrFERMATAgOUR DOTS ABOVEpGLAGOLITIC LETTER AZUd
BIG YUSgUKYeCHRIVIgDJERVIfOBROfFITAdRITUfGLAGOLIhHERUeIaNITIAL IZHElOTATED BIG YUShSMALL YUSqZHEeKAK
OeLJUDIJEhMYSLITEhNASHIfONUdPOKOJIgRITSIfSHAbTAdLOVOeMALL YUSjTSIcVRIDOgUKUdVEDEeYATIdERIbUcSTUeObUc
ZEMLJAfHIVETEyRANTHA DIGIT FIVEdOUReONEdSIXdTHREEeWOdZEROkLETTER AbKAcNAcPAcVIoPHEME JOINERmVE ACCEN
Ta BELOWmTONE MARKk-ACUTE-GRAVElMACRONkEEK DIALYTIKA TONOSpKORONIShMUSICAL PENTASEMEjTETRASEMEiRISEM
EpPERISPOMENIlYPOGEGRAMMENItHOMOTHETIC ABOVEoOK ABOVEiRNeINFINITYgVERTED BREVEa BELOWjIDGE BELOWmDOU
BLE ARCH ABOVEfBELOWzS BELOWiKATAKANA-HIRAGANA SEMI-VOICED SOUND MARKwVOICED SOUND MARKziVYKA ABOVE
 LEFTeRIGHTsLATIN LETTER SMALL CAPITAL GbLbMbNbRwSMALL LETTER Aa WITH DIAERESISpEbLPHAeObVcBaETAeCa
 CEDILLAjDbEaSHcTHdFaLATTENED OPEN A ABOVEwGbHbIaNSULAR DbGbRbTjKbLa WITH DOUBLE MIDDLE TILDEzONG Sg
MbNbOa WITH DIAERESISjLIGHT CENTRALIZATION STROKEzjPbRa BELOWfROTUNDAjSaCHWAfTaURNED W BELOWoUa WITH
 DIAERESISjLIGHT CENTRALIZATION STROKEzjVbWa BELOWhXbZtEFT ANGLE ABOVEfBELOWkRROW ABOVEfBELOWgHEAD A
BOVEfBELOWpHALF RING ABOVEfBELOWnRPOON ABOVEnPARENTHESIS ABOVE LEFTkBELOW LEFTwRIGHT ARROW ABOVEfBEL
OWrTACK BELOWlWARDS ARROW OVERLAYnHARPOON WITH BARB DOWNWARDSzlIGATURE LEFT HALFa BELOWpRIGHT HALFa
 BELOWwHT CENTRALIZATION STROKE BELOWzhONG DOUBLE SOLIDUS OVERLAYwSOLIDUS OVERLAYoTROKE OVERLAYoVERT
ICAL LINE OVERLAYyW LINEiMACRONa BELOWfLEFT HALFa BELOWpRIGHT HALFa BELOWr-ACUTEfBREVEfGRAVElINUS SI
GN BELOWqNOT TILDE ABOVEoUMBER SIGN ABOVErOGONEKa ABOVElLD PERMIC LETTER ANcDOIdNENOEfSIIdZATAvPEN M
ARK BELOWoVERLINEiPALATALIZED HOOK BELOWuRENTHESES ABOVEfBELOWfOVERLAYsLUS SIGN ABOVEfBELOWpRETROFLE
X HOOK BELOWsVERSE SOLIDUS OVERLAYqD COMMA ABOVEtIGHT ARROW ABOVEfBELOWgHEAD ABOVEeND DOWN ARROWHEAD
 BELOWuUP ARROWHEAD BELOWwBELOWpHALF RING ABOVEfBELOWnRPOON ABOVEnPARENTHESIS ABOVE RIGHTlBELOW RIGH
TxTACK BELOWlWARDS HARPOON WITH BARB DOWNWARDSzlNG ABOVEfBELOWfOVERLAYmSEAGULL BELOWmHORT SOLIDUS OV
ERLAYoTROKE OVERLAYoVERTICAL LINE OVERLAYzbNAKE BELOWkQUARE BELOWeRACKETS ABOVEuTRONG CENTRALIZATION
 STROKE BELOWziUSPENSION MARKpTHREE DOTS ABOVEpILDEa BELOWfLEFT HALF BELOWpOVERLAYhRIGHT HALF BELOWv
RIPLE ACUTE ACCENTmDOTdUNDERDOToURNED COMMA ABOVEsUP TACK ABOVEfBELOWlWARDS ARROW BELOWsR ABOVEhS AB
OVEiVERTICAL LINE ABOVEfBELOWkTILDEoWIDE BRIDGE ABOVEmINVERTED BRIDGE BELOWyGGLY LINE BELOWrX ABOVEf
BELOWg-X BELOWjZIGZAG ABOVEfBELOWtETcMAbERCIAL ATcMINUS SIGNsPASSdLEMENTgOSITION SYMBOLoRESSIONjNFET
TI BALLjOUNDED FACElUSED FACEkGRUENT WITH DOT ABOVEvICAL TAPERkJUNCTIONiSTRUCTION SIGNeWORKERqTAINS
 AS MEMBERgNORMAL SUBGROUPa OR EQUAL TOzfWITH LONG HORIZONTAL STROKEwOVERBARhVERTICAL BAR AT END OF
 HORIZONTAL STROKEzzINUOUS UNDERLINE SYMBOLxOUR INTEGRALmROL KNOBSfSEQUENCE INTRODUCERyVENIENCE STOR
EpOKED RICEhIEbNGfPTIC CAPITAL LETTER AKHMIMIC KHEImLFAeBOHAIRIC KHEInCROSSED SHEIkYPTOGRAMMIC EIEdG
ANGIAgNIcSHEIsDALDAeEIcIALECT-P ALEFeHORIeKAPAeNImEIEdFEIcIcGAMMAdNGIAgHATEdORIeIAUDAfKAPAdHEIcIcSId
L-SHAPED HAkAULAfMIcNIcOaLD COPTIC AINdDJAdESHdGANGIAgHAaTcEIcORIeOOUdSHEIcIMAmNUBIAN NGIcYIdSHIMAfW
AUnOUdPIbSIdROcSAMPIeHEIcIMAeIMAdOUdTAUcHETHEgUAcVIDAeZATAsOMBINING NI ABOVEiSPIRITUS ASPERfLENISyEP
ACT DIGIT EIGHTfFIVEdOUReNINEeONEdSEVENeIXdTHREEeWOjNUMBER EIGHT HUNDREDiYgFIFTYdVE HUNDREDlORTYdUR
 HUNDREDmNINE HUNDREDiTYgONE HUNDREDlSEVEN HUNDREDiTYgIX HUNDREDiTYfTENcHIRTYeREE HUNDREDmWENTYeO HU
NDREDsTHOUSANDS MARKuFRACTION ONE HALFqULL STOPjMORPHOLOGICAL DIVIDERvOLD NUBIAN DIRECT QUESTION MAR
KuFULL STOPjINDIRECT QUESTION MARKwVERSE DIVIDERySMALL LETTER AKHMIMIC KHEImLFAeBOHAIRIC KHEInCROSSE
D SHEIkYPTOGRAMMIC EIEdGANGIAgNIcSHEIsDALDAeEIcIALECT-P ALEFeHORIeKAPAeNImEIEdFEIcIcGAMMAdNGIAgHATEd
ORIeIAUDAfKAPAdHEIcIcSIdL-SHAPED HAkAULAfMIcNIcOaLD COPTIC AINdDJAdESHdGANGIAgHAaTcEIcORIeOOUdSHEIcI
MAmNUBIAN NGIcYIdSHIMAfWAUnOUdPIbSIdROcSAMPIeHEIcIMAeIMAdOUdTAUcHETHEgUAcVIDAeZATAqYMBOL KAIcHI ROgM
I ROfPI ROfSHIMA SIMAjTAUROShTAU ROrYLEFT SYMBOLlRIGHT SIGNmRALcNISH VERSE DIVIDERsRESPONDS TOmUCH A
ND LAMPlNTERBOREeSINKgING ROD TENS DIGIT EIGHTfFIVEdOUReNINEeONEdSEVENeIXdTHREEeWOoUNIT DIGIT EIGHTf
FIVEdOUReNINEeONEdSEVENeIXdTHREEeWOyPLE WITH HEARTpWa FACEhRaABcEDIT CARDiSCENT MOONlICKETa BAT AND
 BALLsOCODILEgISSANTgSS MARKeOF JERUSALEMjLORRAINElPATTY WITH LEFT CROSSBARnRIGHT CROSSBARyOMMEEa WI
TH HALF-CIRCLE BELOWzfED FLAGSfNEGATIVE SQUARED LATIN CAPITAL LETTER PzoSWORDSjING LANESlWNdUTCHdZEI
RO SIGNlYING CAT FACEiFACEiSTAL BALLlSIcUBE ROOThCUMBERgNEIFORM NUMERIC SIGN EIGHT ASHdDISHeGESH2fSH
AR2fUa VARIANT FORMoVARIANT FORM USSUa3xLAMITE FIFTYeORTYfONE THIRDjTWO THIRDSsFIVE ASHa TENUiBAN2a
 VARIANT FORMqURUeDISHeGESH2bUfSHAR2bUeIXTHS DISHlUa VARIANT FORMsOUR ASHa TENUiBAN2a VARIANT FORMqU
RUeDISHeGESH2bUfSHAR2bUfUa VARIANT FORMoVARIANT FORM LIMMUa AbBc4yNIGIDAESHdMINhNE ASHdDISHeGESH2fSH
AR2fUa VARIANT FORMoVARIANT FORM ILIMMUa Ac3b4zOLD ASSYRIAN ONE QUARTERhSIXTHvNE BAN2dURUeEIGHTH ASH
jSHE3fGESH2bUfHALF GURiQUARTER ASHdGURlSHARUfTHIRD DISHeVARIANT FORM AySEVEN ASHdDISHeGESH2fSHAR2fUa
 VARIANT FORMoVARIANT FORM IMIN AbBc3xHAR2 TIMES GAL PLUS DISHeMINxIX ASHa TENUiDISHeGESH2fSHAR2fUa
 VARIANT FORMoVARIANT FORM ASH9vTHREE ASHa TENUiBAN2dURUa VARIANT FORMrDISHeGESH2bUfSHAR2a VARIANT F
ORMoUa VARIANT FORMsVARIANT FORM ESH16c21xWO ASHa TENUiBAN2dURUeESHE3fGESH2bUfSHAR2bUfTHIRDS DISHeVA
RIANT FORM AznPUNCTUATION SIGN DIAGONAL COLONfQUADCOLONjTRICOLONrOLD ASSYRIAN WORD DIVIDERzVERTICAL
 COLONzgSIGN Aa TIMES AbBADdGAN2 TENUjHAcIGIdLAGAR GUNUkMUSHeSAGk2bBa GUNUeTIMES ASH2eDUN3 GUNUjGALb
N2 TENUjHAcIGI GUNUhMINeLAGABfNUNa TENUiSHESHdU2eU PLUS U PLUS Uw2a TIMES AbBALAGfGAN2 TENUjME PLUS
 ENkSHA3eTAK4nDa TIMES ESH2mKa TIMES ERIN2fSHITA PLUS GISHxLa TIMES ALcDIM2eGISHeHAcKAD3dIcSHEdUSHkA
NcEPHeMARa TIMES KUGdSHEnNa OVER ANhPLUS NAGA OPPOSING AN PLUS NAGAvSQUAREDrTHREE TIMESmSHEePINdRADa
 TIMES KURmKABeSAL2dHa KABA TENUjOVER ASH OVER ASHa CROSSING ASH OVER ASH OVER ASHzoTUG2 OVER TUG2 T
UG2 OVER TUG2 PAPzrZIDA TENUk2bGABgBAaDa TIMES DISH TENUrG3cHAR2a TIMES AB2dNIcZAnLa OVER BALjAGdRaA
2eIa TIMES AbGARdIGI GUNUqUa CROSSING BUlOVER BU ABcTIMES NA2jUNlLUGa OVER BULUGoRa2eDAa TIMES TAK4l
Ga KISIM5 TIMES A PLUS MASHkMAReBALAGeIcGAa PLUS MASHlIaR2dUDdHAcIRa PLUS LUkKAKdLAbUa PLUS MASH2lMd
NEcPAP PLUS PAPmSIcTAK4eU2 PLUS GIR2eMASHlSHqTIMES KURk3cMbRaA3b4eIaBbMa TIMES IGIdSHEdU U Um2a TIME
S UDlNa KASKAL U GUNU DISHuSHa PLUS SHUmUa GUNUeOVER DUhSHESHIGiBa TIMES ESH2eSHEk2cGa TIMES ANSHEeS
Ha AT LEFTlDINcUNdERIN2fGAbIaR2 GUNUhSHeHAbIcIGI GUNUiKASKALfURbSHU2a PLUS KASKALsLAK-020fMa TIMES K
URmUH PLUS GISHnMASHdEScIcNIcPIcSHEcI GUNUoUDdHbNa3a GUNUa GUNUl4cR2eEa OVER E NUN OVER NUNtTIMES PA
Pk2a TIMES A PLUS HA PLUS DArGARdKURdMIcPAPdSALcHEdUjDINdGIRdLbNa CROSSING ENlOPPOSING ENlSQUAREDhTI
MES GAN2a TENUjMEkRENcIN2a XgSH2a CROSSING ESH2rZENa SHESHIG TIMES ASHdHIcIGI GUNUiLAaLdMEaSdSUqTIME
S Aa PLUS LALa TIMES LALtNcBADdDUN3 GUNUa GUNUoGUDdHAa GUNUhIGI GUNUiKASKALa SQUAREDnU3dLAaL TIMES L
ALmIbUcSHEcUcU2bDnGAa GUNUf2a OVER GA2iTIMES A PLUS DA PLUS HAkHAcIGIjB2 TENU PLUS TABqNa PLUS KAK P
LUS ArSHa2a PLUS GALnBADbHAR2eR PLUS RAkURa PLUS RAlDAbIaM GUNUeTIMES SHEmUBbG TIMES IGI GUNUiKASKAL
qELa PLUS LAjNa TIMES GAN2 TENUrRENeGAaN2 TENUhRa PLUS DIcNEkIa4a PLUS AiR2 PLUS SUmHA PLUS AbLU PLU
S ESH2sLa PLUS LAkI PLUS LIjUB2eIGI GUNUhSH PLUS HU PLUS ASHuKAKbSKALfIDa PLUS LALlU3 PLUS ANjSHU2 P
LUS KASKALsLAaMa TIMES KURmUHdME PLUS ENjIbUSHeNEa PLUS E2cGIjUNa OVER NUNmPAcSALbRcHEa PLUS TURkIDb
MdUMdTAK4eUaDa PLUS DUkZIZ2mBAa CROSSING GABAnROTATED NINETY DEGREESzDa OVER GAD GAR OVER GARxLa GAD
 OVER GAD GAR OVER GARzbAMdMbNa2a CROSSING GAN2nOVER GAN2jTENUhRa3cSHANfE22cSHTINa TIMES KURdUoIa CR
OSSING GIlTIMES EbUi4a CROSSING GI4mOVER GI4kDIMdGbR2a GUNUg3a TIMES A PLUS IGIkGAN2 TENUjIGIdLU PLU
S IGIlPAlSALcHa CROSSING GISHnTENUdIMES BADdGISH CROSSING GISHsTAK4oUa CROSSING GUm2a GUNUeTIMES IGI
 GUNUiKAKa TIMES IGI GUNUsNUNdSAL PLUS TUG2vDa OVER GUD LUGALoPLUS GISH TIMES TAK4uTIMES A PLUS KURk
KURlLbMa TIMES SHElRa7bUNbSHgHAa GUNUeTENUa GUNUkLcIa TIMES ASHa OVER HI TIMES ASHs2eBADdDISHeGADdKI
NdNUNdSHEdUjUaB2a TIMES ANcHALdKASKALgLISHeUDlL2cSHeIa AcBbDIMa OVER IDIM BURdSQUAREDvGaIa DIBdGUNUe
OVER IGI SHIR OVER SHIR UD OVER UDzjRIfLa TIMES GAN2 TENUq2cMa CROSSING IMlOPPOSING IMlSQUAREDhTIMES
 TAK4lINdNbRbSHdKAa TIMES AaDa PLUS KU3kNSHEeSH2b3eBADbLAGdRcIbUcERIN2eSH2eGAaLbN2 TENUhRa PLUS SHA3
 PLUS AtIaR2cSHa CROSSING GISHnPLUS SARmUaDbR7eHI TIMES ASH2nIGIcMcKAaKcIaDdLIbUaMdMEa PLUS DUcGIcTE
jIa PLUS NUNUZnNEbUNdPAbIcRUcSAaRcHAbEbIDcUaLdIGcUHURfTARcUcUa U Ue2bDbMUM TIMES PAmRa2cSHdZIj2a CRO
SSING KA2oBbD2b3b4b5a OVER KAD5mKa TIMES IGI GUNUqLa CROSSING KALmTIMES BADlM2b4cP ELAMITEjSKALa LAG
AB TIMES U OVER LAGAB TIMES UzhOVER KASKAL LAGAB TIMES U OVER LAGAB TIMES UzzESH2eIa TIMES BADdUaDjD
bNbSALcHbIM5a OVER KISIM5rUa OVER HI TIMES ASH2 KU OVER HI TIMES ASH2zq3b4a VARIANT FORMo7bLa GUNUgN
bRa OPPOSING KURoSHU2fWU318gLAaGABa SQUAREDhTIMES Aa PLUS DA PLUS HAkGARdLALjLbNbSH ZIDA TENUnBADcIc
DARdENcGAaRcIbUDa PLUS GUDmHAaLcI TIMES NUNmIGI GUNUhMa PLUS HAcLUkKIaNcU3bLa PLUS HI PLUS AsLAGABeI
SHdUaLdMEa PLUS ENjUSHeNEcSHE PLUS SUMkITA PLUS GISH PLUS ERIN2kTENUsU2a PLUS SHU2nUMdTAGbK4dE PLUS
 A PLUS SU PLUS NAzUa PLUS AbU PLUS Uo2 PLUS ASHkDbSHdZU OVER ZUsRa GUNUa OVER LAGAR GUNU SHEyTIMES
 SHEa PLUS SUMwHSHUeK-003c21b5c30c50b1c62c79 OVER LAK-079 GUNUu80b1 OVER LAK-081p92d130c42d210b9c20b
5b8c38c65b6d343b7b8c83b4c90d441b9a TIMES GUcIGIdPAP PLUS LU3dPAP PLUS LU3vU2 PLUS BAt50b7c70c83c90b2
b3b5d550d608c17a TIMES ASHdBADdDUN3 GUNU GUNUoKU3dLAcTARcEcU2bDbRUDAo36c48a TIMES DUBdGAcIGIa GUNUiN
IcPAP PLUS PAP PLUS LU3vSHESH PLUS KInUDbRUDAp724c49fLa TIMES LALlMa TIMES KURa PLUS RUuIaLbMMU2eSHd
Ua TIMES BADk2a CROSSING LU2mGUNU TIMES ASHoOPPOSING LU2mSHESHIGa TIMES BADqQUAREDhTENUdIMES ALcBADd
DISHeESH2a PLUS LALiTENUjGAN2 TENUjHALcI TIMES BADmIMcKAD2b3a PLUS ASHmIcLA PLUS ASHjGABfME PLUS ENk
NEbUcPAPa PLUS PAP PLUS LU3vSHUcI PLUS ASHjK2 PLUS BUmTAK4dUG2m3bGALa OPPOSING LUGALnVER LUGALkSHESH
IGlHbLbMa OVER LUMa GAR OVER GARzMAa GUNUeTIMES TAK4l2bHbRbSHa2eEaSaHdIa PLUS ZA7jNcUa OVER MUiGa GU
NUgNSUBeRGU2eSHa CROSSING MUSHnOVER MUSHa TIMES A PLUS NAjGAcKAKtTIMES AbKURdZAj3a GUNUeTIMES Aa PLU
S DIjDIcZAoNAa2b4bGAa INVERTEDiOPPOSING NAGAnTIMES SHU TENUpRdMa NUTILLUi2dEa SHESHIGhTIMES AbUDkIa
 TIMES Ei2bMa TIMES GAN2 TENUhR PLUS GAN2 TENUzbNa9bDA2a TIMES ANbSHa PLUS ASHmBALdDIM GUNUiGIaSHdUD
bLdHIcKESH2fLAK-050hMASHdE PLUS GAN2 TENUrNEbUNdPAP PLUS PAPmSHEa PLUS A ANdSHa PLUS ASHvUa PLUS Uh2
 PLUS ASHkRUDAeSHoSAGeUa11a OVER NU11 BUR OVER BURwROTATED NINETY DEGREESwTENUhNa CROSSING NUNa LAGA
R OVER LAGARzeLAGAR TIMES GARdMASHeSALa OVER NUN LAGAR TIMES SALzdUSHpOVER NUNiTENUfUZa AB2 TIMES AS
HGABgBIcDUGdGUDdIGI GUNUiKAD3eLAcNEcSILA3fU2mKISIM5 TIMES BIa UxPAaDbNbPcESH2a ASTERISKnIa CROSSING
 PIlTIMES AaBcBIbUcEbIaBcUa2jR2bIGa OPPOSING PIRIGoTIMES KALdUDcZAoRAaBcIbUcSAaGa GUNUa TIMES HAnNUT
ILLUhOVER SAGiTIMES AbDUaBdENcHAcIGI GUNUiKAKcURdLUMdMIcNUNdSALcHE AT LEFTjIDeTABbK4eU2bBbMbRbSHlLa
 LAGAB TIMES ASH2sNGA2eRcHAa3a TIMES AbBADdGISHeNEcSHU2eTURdUa PLUS Aq6a TENUgB6cR2dEa HUcOVER SHEa
 GAD OVER GAD GAR OVER GARzTAB OVER TAB GAR OVER GARzjPLUS HUB2eNAM2eSARjG9cNbSHa2bLAMgIDa TIMES AbI
MkMa TIMES AbBALcULUGfDINdGARdIGIa GUNUiKUSHU2gLULdMUGdSALlNIGdRa OVER SHIR BUR OVER BURwTENUgTAdUa
 OVER INVERTED SHUs2a PLUS DUG TIMES NImE2 TIMES ANsBURfIa GUNUeTIMES TAK4lGa4a OVER SIG4 SHU2rK2cLA
3eUa OVER SUiDa2cHURdMaASHeRa9eTAa ASTERISKiGUNUeTIMES HIcMIjBa OVER TAB NI OVER NI DISH OVER DISHzj
SQUAREDjGa TIMES BIcGUDdSHEbUdTUG2eUDkK4a PLUS SAGlRcEa GUNUgIa TENUf2bLbRa OVER TIRa GAD OVER GAD G
AR OVER GARzjTIMES TAK4nUaG2cKbMa TIMES GAN2 TENUjTHREE DISHsRa OVER TUR ZA OVER ZAxUa GUDdOVER U PA
 OVER PA GAR OVER GARxSUR OVER SURmU REVERSED OVER U REVERSEDziUa Ue2bBbDa GUNUeKUSHU2gSHESHIGa TIME
S BADrTIMES BADdMIcU PLUS U PLUS Ua GUNUzcUGdMa TIMES LAGABfMEa PLUS DAkSHA3eUiBINdUMa TIMES KASKALg
PAmNa GUNUgRa CROSSING URlSHESHIGi2a INVERTEDiTIMES A PLUS HAcNAiLcHAcNUNdU2a PLUS ASHdBIjDk4bIa3cUa
 TIMES AaSHGABgBARdDARA3eUNdGAaLbN2 TENUhRcUcHAcIGIcMbSHdKIcLAK-668gU3bMdMINdPAcSHEcIG4eTUcU PLUS GU
DjDbRUDAmDAa TIMES UmSHa TIMES AbKUaRdTAK4l2bUMXdXdTUKIeZ3a TIMES KASKALoUdZAa SQUARED TIMES KURrTEN
Uf7bGbMXdE2cIa OVER ZIi3bBa KABA TENUlGbZ2dUa OVER ZU PLUS SARr5a TIMES AbTHREE DISH TENUxBURdMqP ON
 BLACK SQUAREpWITH STRAWlCAKEeIDOeRLING STONEjY BRACKET EXTENSIONrLOGICAL ANDdORiOPhRENCY EXCHANGEiS
IGNjY AND RICElVED STEM PARAGRAPH SIGN ORNAMENTziSTARDdOMSfT OF MEATkYCLONEfLINDRICITYkPRIOT SYLLABL
E AbEbIbJAbOcKAbEbIbObUcLAbEbIbObUcMAbEbIbObUcNAbEbIbObUcObPAbEbIbObUcRAbEbIbObUcSAbEbIbObUcTAbEbIbO
bUcUbWAbEbIbOcXAbEcZAbOpO-MINOAN SIGN CM001b2b4b5b6b7b8b9c10b1b2aBc3b5b7b9c21b3b4b5b6b7b8b9c30b3b4b5
b6b7b8b9c40b1b4b6b7b9c50b1b2b3b4b5b6b8b9c60b1b2b3b4b6b7b8b9c70b1b2b3b4b5aBc6b8b9c80b1b2b3b4b5b6b7b8b
9c90b1b2b4b5b6b7b8b9d100b1b2b3b4b5b7b8b9c10b2b4d301b2vRILLIC CAPITAL LETTER Aa WITH BREVEfDIAERESISp
BKHASIAN CHEa WITH DESCENDERsDZEdHAlLEUT KAiBARRED Oa WITH DIAERESISvSHKIR KAjEbIG YUSfNOCULAR OkLEN
DED YUSkROAD OMEGAkYELORUSSIAN-UKRAINIAN IyCCHEdHEa WITH DESCENDERiIAERESISjVERTICAL STROKExLOSED LI
TTLE YUSqROSSED OjDCHEdEbJEaRVeOUBLE MONOCULAR OlOhWEcZEaLOdHEcWEcZEbHEfEa WITH DIAERESISpFbLa WITH
 DESCENDERjHOOKeMIDDLE HOOKlTAILlMa WITH TAILlNa WITH DESCENDERjHOOKeLEFT HOOKjMIDDLE HOOKlTAILlRa W
ITH TICKlSa WITH DESCENDERrFITAeGHEa WITH DESCENDERjMIDDLE HOOKlSTROKEa AND HOOKpUPTURNoJEdHAa WITH
 DESCENDERjHOOKeSTROKEmRD SIGNiWEdIa WITH DIAERESISjGRAVEfMACRONmEa WITH BREVEfGRAVEmOaTAbIFIED AbBI
G YUShCLOSED LITTLE YUSrEbLITTLE YUSkYATlZHITSAa WITH DOUBLE GRAVE ACCENTzhJEcKAa WITH DESCENDERjHOO
KeSTROKEgVERTICAL STROKEwHAKASSIAN CHEnJEcOMI DEbJEcZJEeLJEdNJEdSJEdTJEdZJEgPPAeSIdLHAcITTLE YUSjJEd
MONOCULAR OhGRAPH UKmNEUTRAL YERkJEdOa WITH DIAERESISpMEGAa WITH TITLOpTcPEa WITH DESCENDERjMIDDLE H
OOKsSIdQAcREVERSED DZEdTSEdYUcZEkHAcOUND OMEGAlSCHWAa WITH DIAERESIStEMISOFT SIGNmHAbCHAdHAa WITH DE
SCENDERrORT Ia WITH TAILlUfWEdOFT DEcELbMcSIGNiTRAIGHT Ua WITH STROKEwTCHEdEa WITH DESCENDERjMIDDLE
 HOOKsSEbHEcSEcWEdWEdUa WITH DIAERESISiOUBLE ACUTEmMACRONmKaRAINIAN IEmVEcWEcYAaEbTcERUa WITH BACK Y
ERiDIAERESISsIbNbUcZEa WITH DESCENDERiIAERESISpMLYAfHEa WITH BREVEfDESCENDERiIAERESISqWEkIGATURE A I
EeEN GHEgTE TSExKAVYKAgLETTER MULTIOCULAR OnPALOCHKAiSMALL CAPITAL ELxPAYEROKhSMALL LETTER Aa WITH B
REVEfDIAERESISpBKHASIAN CHEa WITH DESCENDERsDZEdHAlLEUT KAiBARRED Oa WITH DIAERESISvSHKIR KAjEbIG YU
SfNOCULAR OkLENDED YUSkROAD OMEGAkYELORUSSIAN-UKRAINIAN IyCCHEdHEa WITH DESCENDERiIAERESISjVERTICAL
 STROKExLOSED LITTLE YUSqROSSED OjDCHEdEbJEaRVeOUBLE MONOCULAR OlOhWEcZEaLOdHEcWEcZEbHEfEa WITH DIAE
RESISpFbLa WITH DESCENDERjHOOKeMIDDLE HOOKlTAILlMa WITH TAILlNa WITH DESCENDERjHOOKeLEFT HOOKjMIDDLE
 HOOKlTAILlRa WITH TICKlSa WITH DESCENDERrFITAeGHEa WITH DESCENDERjMIDDLE HOOKlSTROKEa AND HOOKpUPTU
RNoJEdHAa WITH DESCENDERjHOOKeSTROKEmRD SIGNiWEdIa WITH DIAERESISjGRAVEfMACRONmEa WITH BREVEfGRAVEmO
aTAbIFIED AbBIG YUShCLOSED LITTLE YUSrEbLITTLE YUSkYATlZHITSAa WITH DOUBLE GRAVE ACCENTzhJEcKAa WITH
 DESCENDERjHOOKeSTROKEgVERTICAL STROKEwHAKASSIAN CHEnJEcOMI DEbJEcZJEeLJEdNJEdSJEdTJEdZJEgPPAeSIdLHA
cITTLE YUSjJEcONG-LEGGED DEoMONOCULAR OhGRAPH UKmNARROW OhEUTRAL YERkJEdOa WITH DIAERESISpMEGAa WITH
 TITLOpTcPALOCHKAhEa WITH DESCENDERjMIDDLE HOOKsSIdQAcREVERSED DZEdTSEdYUcZEkHAcOUND OMEGAgED VEkSCH
WAa WITH DIAERESIStEMISOFT SIGNmHAbCHAdHAa WITH DESCENDERrORT Ia WITH TAILlUfWEdOFT DEcELbMcSIGNiTRA
IGHT Ua WITH STROKEwTALL HARD SIGNjTEcYAThCHEdEa WITH DESCENDERjMIDDLE HOOKsHREE-LEGGED TEoSEbHEcSEc
WEdWEdUa WITH DIAERESISiOUBLE ACUTEmMACRONmKaRAINIAN IElNBLENDED UKmVEcWEbIDE EShYAaEbTcERUa WITH BA
CK YERiDIAERESISsIbNbUcZEa WITH DESCENDERiIAERESISpMLYAfHEa WITH BREVEfDESCENDERiIAERESISqWEkIGATURE
 A IEeEN GHEgTE TSEvTHOUSANDS SIGNxDAGGERa KNIFEfWITH LEFT GUARDkRIGHT GUARDvLET SYMBOLkNCERdGOdRK S
HADEeUNGLASSESnSH SYMBOLgWITH LEFT UPTURNrED LOW LINEiOVERLINEiTRIANGLE-HEADED RIGHTWARDS ARROWzmTA
 LINK ESCAPEpC1b2b3b4bScEAF PERSONjCIDUOUS TREEkMAL EXPONENT SYMBOLpSEPARATOR KEY SYMBOLzREASE FONT
 SIZE SYMBOLxERcGREE CELSIUShFAHRENHEITkSIGNjLaETEdIVERY TRUCKlTA EQUAL TOmNTISTRY SYMBOL LIGHT DOWN
 AND HORIZONTALa WITH CIRCLEgTRIANGLEiWAVEzeUP AND HORIZONTALa WITH CIRCLEgTRIANGLEiWAVEzcVERTICAL A
ND BOTTOM LEFTeRIGHTmTOP LEFTeRIGHTjWAVEiWITH CIRCLEgTRIANGLEzsPARTMENT STOREoRELICT HOUSE BUILDINGv
SCENDING NODEmERET CAPITAL LETTER AYcBEEdCHEEeDEEdEFbLbMbNaGcRbSaHcTHcWcGAYdHbJEEdKAYdLONG AaHcEbIbO
aOhOIbWcPEEdSHORT AaHcEbIbOaOiTEEcHEEeVEEdWUcYEEdZEEcHEEtSMALL LETTER AYcBEEdCHEEeDEEdEFbLbMbNaGcRbS
aHcTHcWcGAYdHbJEEdKAYdLONG AaHcEbIbOaOhOIbWcPEEdSHORT AaHcEbIbOaOiTEEcHEEeVEEdWUcYEEdZEEcHEEuTa ISLA
NDkKTOP COMPUTERiWINDOWmVANAGARI ABBREVIATION SIGNqCUTE ACCENTmCARETfDANDAeIGIT EIGHTfFIVEdOUReNINEe
ONEdSEVENeIXdTHREEeWOdZEROjOUBLE DANDAmGAP FILLERjRAVE ACCENTmHEADSTROKEkJAIN OMhLETTER AaAbIbUbWbYc
BAbBAcHAdCAaNDRA AbEbOhHAdDAbDAbDAbHAdHAdHAdEbFAcGAbGAcHAbHAdLOTTAL STOPmHAbEAVY YAiIaIcJAbHAcJAdKAb
HAbHAeLAbLAbLAeMAaRWARI DDAlNAbGAcNAbNAdYAdOaEbOEdPAbHAdQAcRAbHAcRAdSAbHAbORT AbEbOgSAdTAbHAcTAbHAeU
aEbUaEdVAbOCALIC LaLcRaRkYAbYAdZAbHAkOMcSIGN ANUSVARAhVAGRAHAiCANDRABINDUa AVAGRAHAiTHREEeWOdVIRAMAs
DOUBLE CANDRABINDU VIRAMAzHIGH SPACING DOTqINVERTED CANDRABINDUuNUKTAfPUSHPIKAiSIDDHAMgPACING CANDRA
BINDUtVIRAMAeSARGAlTRESS SIGN ANUDATTAiUDATTAsVOWEL SIGN AAbIbUbWbYcCANDRA EbLONG EgOiEbIaIcOaEbOEdP
RISHTHAMATRA EpSHORT EbOhUaEbUaEdVOCALIC LaLcRaRzeICE CONTROL FOUReONEdSTRINGgTHREEeWOrIAERESISgMETE
R SIGNjOND OPERATORiSHAPE WITH A DOT INSIDExTARGETgWITH BOTTOM HALF BLACKrLEFT HALF BLACKpRIGHT HALF
 BLACKqTOP HALF BLACKzE FACE-1b2b3b4b5b6hSEL LOCOMOTIVEpFFERENCE BETWEENqGIT EIGHTa COMMAfFULL STOPp
FIVEa COMMAfFULL STOPnOURa COMMAfFULL STOPoNINEa COMMAfFULL STOPoONEa COMMAfFULL STOPnSEVENa COMMAfF
ULL STOPoIXa COMMAfFULL STOPnTHREEa COMMAfFULL STOPoWOa COMMAfFULL STOPnZEROa COMMAfFULL STOPrRAM FO
R EARTHaLY HEAVENfUMANnGREATER YANGdINlHEAVENLY EARTHnUMAN EARTHlLESSER YANGdINtMENSION ORIGINoNGBAT
 CIRCLED SANS-SERIF DIGIT EIGHTfFIVEdOUReNINEeONEdSEVENeIXdTHREEeWOdZEROkNUMBER TENzeNEGATIVE CIRCLE
D DIGIT EIGHTfFIVEdOUReNINEeONEdSEVENeIXdTHREEeWOjNUMBER TENkSANS-SERIF DIGIT EIGHTfFIVEdOUReNINEeON
EdSEVENeIXdTHREEeWOdZEROkNUMBER TENztRECT CURRENT SYMBOL FORM TWOxHITiSABLED CARiPPOINTED BUT RELIEV
ED FACErFACEoCONTINUOUS UNDERLINE SYMBOLzcGUISED FACEmTTO MARKiVES AKURU DIGIT EIGHTfFIVEdOUReNINEeO
NEdSEVENeIXdTHREEeWOdZEROjOUBLE DANDAmEND OF TEXT MARKqGAP FILLERkINITIAL RAkLETTER AaAcBAbHAdCAbHAd
DAbDAbHAdHAdEbGAbHAdHAcIaIcJAcKAbHAdLAbLAdMAcNAbGAcNAcYAdObPAbHAdRAcSAbHAcSAdTAbHAcTAdUaUcVAcYAbYAdZ
AjMEDIAL RAcYAjPREFIXED NASAL SIGNtSIGN ANUSVARAiCANDRABINDUlHALANTAhNUKTAkVIRAMAfOWEL SIGN AAbIcEbI
aIcObUaUwIDESdNG MASKhSION SIGNdLASHfTIMESlORCE SYMBOLmYA LAMPhZZY FACEeSYMBOLlLEcNA DOUBLE HELIXpO
 NOT LITTER SYMBOLsCUMENTa WITH PICTUREhTEXTa AND PICTUREzdDOcES NOT CONTAIN AS MEMBERgNORMAL SUBGRO
UPa OR EQUALzkDIVIDEa WITH REVERSED NEGATION SLASHzkFORCEfPRECEDEa OR EQUALoOVEfSUCCEEDa OR EQUALxGa
 FACEfRA ABBREVIATION SIGNrLETTER AaAbIbUcBAbHAdCAbHAdDAbDAbHAdHAdEbGAbHAdHAcIaIcJAbHAdKAbHAdLAcMAcN
AbGAcNAcYAdObPAbHAdRAbRAdSAbHAcSAdTAbHAcTAbHAeUaUcVAcYAjSIGN ANUSVARAiNUKTAfVIRAMAeSARGAmVOWEL SIGN
 AAbIbUcEbIaIcObUaUcVOCALIC RaRzLLAR SIGNiPHINfMINO TILE HORIZONTAL BACKf-00-00b1b2b3b4b5b6e1-00b1b2
b3b4b5b6e2-00b1b2b3b4b5b6e3-00b1b2b3b4b5b6e4-00b1b2b3b4b5b6e5-00b1b2b3b4b5b6e6-00b1b2b3b4b5b6qVERTIC
AL BACKf-00-00b1b2b3b4b5b6e1-00b1b2b3b4b5b6e2-00b1b2b3b4b5b6e3-00b1b2b3b4b5b6e4-00b1b2b3b4b5b6e5-00b
1b2b3b4b5b6e6-00b1b2b3b4b5b6yNG SIGNhORcT ABOVEfMINUSfOPERATORiPLUSfTED CIRCLEfROSSfFENCEfLINE FACEj
OBELOSgRIGHT-POINTING ANGLEuSOLIDUSgQUAREgTRANSPOSITION MARKERzUBLE ACUTE ACCENTmCIRCLED DIGIT EIGHT
fFIVEdOUReNINEeONEdSEVENeIXdTHREEeWOjNUMBER TENrOLON EQUALkURLY LOOPkDAGGERfOWN TACKjEXCLAMATION MAR
KqHIGH-REVERSED-9 QUOTATION MARKzeYPHENgINTEGRALeRSECTIONmLEFT ARC GREATER-THAN BRACKETzdOGICAL ANDd
ORiW LINEf-9 QUOTATION MARKqREVERSED-9 QUOTATION MARKzeNESTED GREATER-THANmLESS-THANa WITH UNDERBARz
fOBLIQUE HYPHENoPLUSdRECEDESgIMEa QUOTATION MARKuQUESTION MARKnRIGHT ARC LESS-THAN BRACKETzcSOLIDUS
 OPERATORpQUARE INTERSECTIONmUNIONlTACKED COMMAlROKE NOT SIGNoUBSETeCCEEDSgPERSETgSPENSION MARKpUNIO
NeP TACKhVERTICAL BARa DOUBLE LEFT TURNSTILEoRIGHT TURNSTILEwLEFT TURNSTILEsLINEnWAVY OVERLINEo-ENDE
D MULTIMAPoLINE EQUAL TO OR GREATER-THANmLESS-THANvSLANTED EQUAL TO OR GREATER-THANmLESS-THANvGREATE
R-THAN OR EQUAL TOyLESS-THAN OR EQUAL TOzjSTRUCK CAPITAL CbGAMMAfHbNbPaIcQbRbZjITALIC CAPITAL DjSMAL
L DbEbIbJoN-ARY SUMMATIONpSMALL GAMMAfPIqD FEMALE SIGNlMALE SIGNjSYMBOLlGHNUTgVE OF PEACElWN ARROWHE
ADjFISH TAILjRIGHT DIAGONAL ELLIPSISxTACKa WITH CIRCLE BELOWx-POINTING RED TRIANGLEmSMALL RED TRIANG
LEsTRIANGLE WITH LEFT HALF BLACKpRIGHT HALF BLACKzpWARD FACING HOOKa WITH DOTnNOTCHED HOOKa WITH DOT
zeS ANCORAfRROWa AND RIGHT ONE EIGHTH BLOCKzbFROM BARiLEFTWARDS OF UPWARDS ARROWzbTO BARgWITH CORNER
 LEFTWARDSqDOUBLE STROKEnEQUILATERAL ARROWHEADvHORIZONTAL STROKErLARGE TRIANGLE ARROWHEADyMEDIUM TRI
ANGLE ARROWHEADzNOTCHED TAILmSMALL EQUILATERAL ARROWHEADvTRIANGLE ARROWHEADyTIP LEFTWARDSjRIGHTWARDS
zBLACK ARROWfCIRCLED WHITE ARROWzCOMPRESSED ARROWqDASHED ARROWlOUBLE ARROWmFINGER-POST ARROWrHARPOON
 WITH BARB LEFT BESIDE DOWNWARDS HARPOON WITH BARB RIGHTziUPWARDS HARPOON WITH BARB RIGHTznFROM BARi
TO BARhWARDSjRIGHT FROM BARiTO BARhWARDSzcEAVY ARROWfCOMPRESSED ARROWwPAIRED ARROWSnQUADRUPLE ARROWp
ROCKETgSANS-SERIF ARROWpQUARED ARROWnTRIANGLE ARROWHEADk-HEADED ARROWa LEFTWARDS OF UPWARDS TRIANGLE
-HEADED ARROWzrTO BARgWITH BOLD SHAFTkDOUBLE HORIZONTAL STROKEyHEAVY SHAFTlLONG TIP LEFTWARDSjRIGHTW
ARDStMEDIUM SHAFTmNARROW SHAFTmVERY HEAVY SHAFTzcDASHED ARROWmPAIRED ARROWSnZIGZAG ARROWzPLE ARROWlW
O HEADED ARROWn-HEADED ARROW WITH TRIANGLE ARROWHEADSzqWHITE ARROWa WITHIN TRIANGLE ARROWHEADzmZIGZA
G ARROWvRACHMA SIGNjFTING POINT RIGHTWARDS ARROWzdGONa FACEjESSdIVE SLOW SIGNnOMEDARY CAMELmOLING FA
CEkP OF BLOODjLETfUM WITH DRUMSTICKStUCKcMPLINGgPLOYAN AFFIX ATTACHED E HOOKgI HOOKgLEFT-TO-RIGHT SE
CANTuSECANTgTAILcNGENTa HOOKvHIGH ACUTEfCIRCLEgDOTdGRAVEfLINEdONG GRAVEkTIGHT ACUTElVERTICALa SECANT
pWAVEjLEFT HORIZONTAL SECANTvOW ACUTEeRROWfCIRCLEgDOTdGRAVEfLINEdONG GRAVEkTIGHT ACUTElVERTICALa SEC
ANTpWAVEiMID HORIZONTAL SECANTrVERTICAL SECANTtRIGHT HORIZONTAL SECANTzeDOUBLE MARKlLETTER AaOUdBbDa
 ScHcEaEbUcFa NdGa R SfHaLcIaEcJa Ma SdNa SdSa WITH DOTkWITH DOTaS INSIDE AND ABOVEzdKa MbR SeKcLaHb
ONG IbUgMa Na SdSbWITH DOTkNa Ma SdSbWITH DOTjASAL AbIbObUhOaAbOHcUbWcPa NcERNIN AMbNjRa ScHbOMANIAN
 IbUkSa Ja SdKa RdMbNbPa RdSbTa RdWITH DOTa BELOWpHORT IgLOAN ANcDHcEEbHbNcJbONbWcUhTa R SdScHcUa Nc
HbIcVaOCALIC MjWa RcAbEIcHbIbOaWdXaWcYEjPUNCTUATION CHINOOK FULL STOPzeSIGN O WITH CROSSrTHICK LETTE
R SELECTORzeVDdE-MAIL SYMBOLmAGLEdRa OF MAIZEfRICEhWITH HEARING AIDrTHa GLOBE AMERICAShSIA-AUSTRALIA
oEUROPE-AFRICAsROUNDkST SYRIAC CROSSqDITORIAL CORONISqGGbYPTIAN HIEROGLYPH A001b2b3b4b5aAc6aAbBc7b8b
9c10b1b2b3b4aAc5b6b7aAc8b9c20b1b2b3b4b5b6b7b8b9c30b1b2aAc3b4b5b6b7b8b9c40aAc1b2aAc3aAc4b5aAc6b7b8b9c
50b1b2b3b4b5b6b7b8b9c60b1b2b3b4b5b6b7b8b9c70dA001b2b3b4b5b6b7aAbBc8b9c10b1b2b3b4b5b6b7b8b9c20b1b2b3b
4b5b6b7b8b9c30b1b2fB001b2b3b4b5aAc6b7b8b9dEGIN SEGMENTnC001b2aAbBbCc3b4b5b6b7b8b9c10aAc1b2b3b4b5b6b7
b8b9c20b1b2b3b4eD001b2b3b4b5b6b7b8aAc9c10b1b2b3b4b5b6b7b8b9c20b1b2b3b4b5b6b7aAc8b9c30b1aAc2b3b4aAc5b
6b7b8b9c40b1b2b3b4b5b6aAc7b8aAc9c50aAbBbCbDbEbFbGbHbIc1b2aAc3b4aAc5b6b7b8b9c60b1b2b3b4b5b6b7aAbBbCbD
bEbFbGbHfE001b2b3b4b5b6b7b8aAc9aAd10b1b2b3b4b5b6aAc7aAc8b9c20aAc1b2b3b4b5b6b7b8aAc9c30b1b2b3b4aAc6b7
b8dND SEGMENTlF001aAc2b3b4b5b6b7b8b9c10b1b2b3aAc4b5b6b7b8b9c20b1aAc2b3b4b5b6b7b8b9c30b1aAc2b3b4b5b6b
7aAc8aAc9c40b1b2b3b4b5aAc6aAc7aAc8b9c50b1aAbBbCc2b3eG001b2b3b4b5b6aAc7aAbBc8b9c10b1aAc2b3b4b5b6b7b8b
9c20aAc1b2b3b4b5b6aAc7b8b9c30b1b2b3b4b5b6aAc7aAc8b9c40b1b2b3aAc4b5aAc6b7b8b9c50b1b2b3b4eH001b2b3b4b5
b6aAc7b8dORIZONTAL JOINERrI001b2b3b4b5aAc6b7b8b9aAd10aAc1aAc2b3b4b5dNSERT AT BOTTOM ENDdSTARTmTOP EN
DdSTARTtK001b2b3b4b5b6b7b8eL001b2aAc3b4b5b6aAc7b8eM001aAbBc2b3aAc4b5b6b7b8b9c10aAc1b2aAbBbCbDbEbFbGb
Hc3b4b5aAc6aAc7aAc8b9c20b1b2aAc3b4aAc5b6b7b8aAc9c30b1aAc2b3aAbBc4b5b6b7b8b9c40aAc1b2b3b4eN001b2b3b4b
5b6b7b8b9c10b1b2b3b4b5b6b7b8aAbBc9c20b1b2b3b4b5aAc6b7b8b9c30b1b2b3aAc4aAc5aAc6b7aAc8b9c40b1b2dL001b2
b3b4b5aAc6b7b8b9c10b1b2b3b4b5b6b7aAc8b9c20eU001b2b3b4b5b6b7b8b9c10aAc1aAc2b3b4b5b6b7b8aAc9c20b1b2aAg
O001aAc2b3b4b5aAc6aAbBbCbDbEbFc7b8b9c10aAbBbCc1b2b3b4b5b6b7b8b9aAd20aAc1b2b3b4aAc5aAc6b7b8b9aAd30aAc
1b2b3aAc4b5b6aAbBbCbDc7b8b9c40b1b2b3b4b5b6b7b8b9c50aAbBc1dVERLAY MIDDLEoP001aAc2b3aAc4b5b6b7b8b9c10b
1eQ001b2b3b4b5b6b7eR001b2aAc3aAbBc4b5b6b7b8b9c10aAc1b2b3b4b5b6aAc7b8b9c20b1b2b3b4b5b6b7b8b9eS001b2aA
c3b4b5b6aAc7b8b9c10b1b2b3b4aAbBc5b6b7aAc8b9c20b1b2b3b4b5b6aAbBc7b8b9c30b1b2b3b4b5aAc6b7b8b9c40b1b2b3
b4b5b6eT001b2b3aAc4b5b6b7aAc8aAc9aAd10b1aAc2b3b4b5b6aAc7b8b9c20b1b2b3b4b5b6b7b8b9c30b1b2aAc3aAc4b5b6
eU001b2b3b4b5b6aAbBc7b8b9c10b1b2b3b4b5b6b7b8b9c20b1b2b3aAc4b5b6b7b8b9aAd30b1b2aAc3b4b5b6b7b8b9c40b1b
2eV001aAbBbCbDbEbFbGbHbIc2aAc3b4b5b6b7aAbBc8b9c10b1aAbBbCc2aAbBc3b4b5b6b7b8b9c20aAbBbCbDbEbFbGbHbIbJ
bKbLc1b2b3aAc4b5b6b7b8aAc9aAd30aAc1aAc2b3aAc4b5b6b7aAc8b9c40aAeERTICAL JOINERpW001b2b3aAc4b5b6b7b8b9
aAd10aAc1b2b3b4aAc5b6b7aAc8aAc9c20b1b2b3b4aAc5eX001b2b3b4aAbBc5b6aAc7b8aAfY001aAc2b3b4b5b6b7b8eZ001b
2aAbBbCbDc3aAbBc4aAc5aAc6b7b8b9c10b1b2b3b4b5aAbBbCbDbEbFbGbHbIc6aAbBbCbDbEbFbGbHyIGHT PETALLED OUTLI
NED BLACK FLORETTEzgOINTED BLACK STARkPINWHEEL STARnRECTILINEAR BLACK STARzfSPOKED ASTERISKpTEARDROP
-SPOKED PROPELLER ASTERISKzkH NOTEkJECT SYMBOLlLBASAN LETTER AbBEcCEbHEdDEbHEdEaIcFEcGEbHAMMAeEcJEdH
EcIbJEcKEbHEdLEbLEdMEcNAbDEcEbJEdObPEcQEcREbREdSEbHEdTEbHEdUbVEcXEcYbZEbHEqECTRIC ARROWfLIGHT BULBkP
LUGeTORCHgAL INTERSECTIONuMENT OFa OPENING DOWNWARDSjUPWARDSpWITH DOT ABOVEjLONG HORIZONTAL STROKEwO
VERBARhTWO HORIZONTAL STROKESwUNDERBARiVERTICAL BAR AT END OF HORIZONTAL STROKEzzdPHANTfVATORgFbYMAI
C LETTER ALEPHeYINeBETHeDALETHgGIMELfHEaTHeKAPHeLAMEDHgMEMdNUNdPEcQOPHeRESHeSADHEdMEKHfHINeTAWcETHeW
AWdYODHeZAYINlIGATURE ZAYIN-YODHzbM DASHeQUADeSPACEgOJI COMPONENT BALDeCURLY HAIRkRED HAIRiWHITE HAI
RuMODIFIER FITZPATRICK TYPE-1-2d3b4b5b6zgPHASIS SYMBOLmTY DOCUMENTiNESTdOTEa PADbGEjPAGEaSfSETa WITH
 LEFT ARROW ABOVEqOVERBARhRIGHT ARROW ABOVErSMALL CIRCLE ABOVEzhN DASHeQUADeSPACEgD OF GUARDED AREAm
LINEeMEDIUMgPROOFcTECTED AREAoSELECTED AREAnTEXTdRANSMISSIONa BLOCKvWITH LEFTWARDS ARROW ABOVEzdQaUI
RYfTER SYMBOLkVELOPEa WITH DOWNWARDS ARROW ABOVEvLIGHTNINGwOLbMbTcPAcQUAL AND PARALLEL TOpTO BY DEFI
NITIONnOR GREATER-THANmLESS-THANjPRECEDESiSUCCEEDSpS COLONfSIGNa ABOVE LEFTWARDS ARROWpPLUS SIGNjRIG
HTWARDS ARROWqTILDE OPERATORtND SLANTED PARALLELa WITH TILDE ABOVEzmWITH BUMPY ABOVElDOT BELOWjINFIN
ITY BELOWoTWO DOTS ABOVE AND TWO DOTS BELOWzsWITH ASTERISKrIANGULAR TOkVALENT TOcWITH FOUR DOTS ABOV
EzfRASE TO THE LEFTeRIGHTqIS FORM ONEdTWOlROR-BARRED BLACK CIRCLEgDIAMONDhSQUAREmWHITE CIRCLEgDIAMON
DhSQUAREySAbCaAPEeTIMATED SYMBOLiSiTBbHIOPIC COLONdMBINING GEMINATION AND VOWEL LENGTH MARKvMARKpVOW
EL LENGTH MARKyMAfDIGIT EIGHTfFIVEdOUReNINEeONEdSEVENeIXdTHREEeWOjFULL STOPjNUMBER EIGHTYgFIFTYeORTY
fHUNDREDhNINETYgSEVENTYgIXTYfTENa THOUSANDlHIRTYfWENTYnPARAGRAPH SEPARATORsREFACE COLONnQUESTION MAR
KnSECTION MARKkMICOLONiYLLABLE BAaAcBAaAcEaEcIbObUcEaEcIbOaAcUbWAbEaEcIdCAaAcCAaAcEaEcHAaAcEaEcHAaAc
EaEcIbObUcIbObUcIbObUcEaEcHAaAcEaEcIbOaAcUbWAdIbOaAcUbWAdDAaAcDAaAcEaEcHAAcEaEcIbObUcIbOaAcUbWAdEaEc
IbOaAcUbWAcZAAcEaEcIbObUdFAaAcEaEcIbObUbWAbEaEcIcYAdGAaAcEaEcGAaAcEaEcIbObUbWAaAcEaEcIdIbLOTTAL AaAc
EaEcIbOaAcUbWAjOaAcUaRAGE BWEEcIdFWEEcIdGWEaEcIdHHWAeKWEaEcIdMWEEcIdPWEEcIdQWEaEcIjWAaAcEaEcIcYAaAcE
aEcIbObUdHAaAcEaEcHAaAcEaEcIbObUbWAbEaEcIcYAaAcEaEcIbObUdIbOaAcUcJAaAcEaEcIbOaAcUbWAdKAaAcEaEcIbOaAc
UbWAaAcEaEcIcXAaAcEaEcIbObUbWAaAcEaEcIdYAaAcEaEcIbObUdLAaAcEaEcIbOaAcUbWAdMAaAcEaEcIbOaAcUbWAbEaEcIc
YAdNAaAcEaEcIbOaAcUbWAcYAaAcEaEcIbOaAcUbWAePAaAcEaEcHAaAbRYNGEAL AaAcEaEcIbObUkEaEcIbOaAcUbWAdIbOaAc
UbWAbEaEcIdQAaAcEaEcHAaAcEaEcIbObUbWAaAcEaEcIdIbOaAcUbWAaAcEaEcIcYAaAcEaEcIbObUdRAaAcEaEcIbOaAcUbWAc
YAdSAaAcEaBATBEIT BWAdFWAdMWAdPWAlEcHAaAcEaEcIbOaAcUbWAdIbOaAcSAaAcEaEcIbObUcUbWAcZAaAcEaEcIbObUbWAe
TAaAcEaEcHAaAcEaEcIbOaAcUbWAdIbOaAcSAaAcEaEcIbObUbWAdTHAAcEaEcIbObUdUbWAcZAaAcEaEcIbOaAcUdVAaAcEaEcI
bObUbWAdWAaAcEaEcIbOaAcUcXAaAcEaEcIbOaAcUbWAaAcEaEcIcYAaAcEaEcIbObUdYAaAcEaEcIbOaAcUcZAaAcEaEcHAaAcE
aEcIbObUbWAdIbOaAcUbWAcZAaAcEaEcIbObUmTONAL MARK CHIRETgDERETa-HIDETkIFATfHIDETfKENATeURTeRIKRIKgSHO
RT RIKRIKmYIZETqWORDSPACEqXcULER CONSTANTmRO SIGNf-CURRENCY SIGNoPEAN CASTLEgPOST OFFICEtVERGREEN TR
EEnXCESSdLAMATION MARKeQUESTION MARKxPRESSIONLESS FACErTENDED ARABIC-INDIC DIGIT EIGHTfFIVEdOUReNINE
eONEdSEVENeIXdTHREEeWOdZEROzeRATERRESTRIAL ALIENsEMELY HEAVY FIVE SPOKED ASTERISKuGREEK CROSSlSALTIR
EgIX SPOKED ASTERISKtWHITE CIRCLEgSQUAREzcYEaGLASSEShSeFACE HOLDING BACK TEARSsMASSAGEhPALMeSAVOURIN
G DELICIOUS FOODxCREAMING IN FEARrTHROWING A KISSpWITH COLD SWEATiWBOY HATkDIAGONAL MOUTHoFINGER COV
ERING CLOSED LIPSzcHEAD-BANDAGEmLOOK OF TRIUMPHpMEDICAL MASKlONOCLEhNO GOOD GESTUREpOK GESTUREjNE EY
EBROW RAISEDrPEN EYES AND HAND OVER MOUTHyMOUTHa AND COLD SWEAToVOMITINGtPARTY HORN AND PARTY HATxEE
KING EYEkLEADING EYESnROLLING EYESmSTUCK-OUT TONGUEa AND TIGHTLY-CLOSED EYEStWINKING EYEzhTEARS OF J
OYlHERMOMETERlUNEVEN EYES AND WAVY MOUTHzcOUT MOUTHpSIMILE SIGNlTORYfIRYdLAFELeLEN LEAFhING DIAGONAL
 CROSSING NORTH EAST ARROWqRISING DIAGONALyIN WHITE CIRCLE IN BLACK SQUAREzvMILYeRSI SYMBOLkTHER CHR
ISTMASoX ICONeMACHINEkEARFUL FACEjTHERfMALE SIGNiININE ORDINAL INDICATORyNCEReRRIS WHEELiYeFbIELD HO
CKEY STICK AND BALLzGURE DASHeSPACEkLE CABINEThFOLDERgSEPARATORlM FRAMESgPROJECTORmNITE PART INTEGRA
LsREa ENGINEfXTINGUISHERnCRACKERhWORK SPARKLERjSgST PLACE MEDALlQUARTER MOONa SYMBOLgWITH FACEwSTRON
G ISOLATEsSHa CAKE WITH SWIRL DESIGNxEYEdING POLE AND FISHsTED HAND SIGNoVE DOT MARKePUNCTUATIONtLAG
 IN HOLEjMINGOfT SHOEfBREADfNESSgEUR-DE-LISjXED BICEPSlOPPY DISKiRAL HEARTjWERa PLAYING CARDSmUNCTUA
TION MARKvUSHED FACEkYaING DISCeENVELOPEiSAUCERmOGaGYdLDEReNDUEeOTaPRINTSiR ALLeCESdK AND KNIFEa WIT
H PLATEvED PARAGRAPHOSoINGeM FEEDgTUNE COOKIEmUNTAINfR BALLOON-SPOKED ASTERISKxCLUB-SPOKED ASTERISKt
ORNER ARROWS CIRCLING ANTICLOCKWISEzlDOT MARKePUNCTUATIONpLEAF CLOVERlPOINTED BLACK STARsTEARDROP-SP
OKED ASTERISKz-PER-EM SPACEnTH ROOTjX FACEhRACTION NUMERATOR ONEnSLASHlME WITH AN XePICTUREhTILESoEE
ZING FACEkNCH FRANC SIGNiIESkIED SHRIMPkOG FACEgNT-FACING BABY CHICKrTILTED SHADOWED WHITE RIGHTWARD
S ARROWzqWNaING FACE WITH OPEN MOUTHzdSaIcUEL PUMPhLL BLOCKfMOON SYMBOLgWITH FACEoOUTER JOINkSTOPfWI
DTH AMPERSANDiPOSTROPHEjSTERISKiBROKEN BARkCENT SIGNiIRCUMFLEX ACCENTqOLONdMMAbERCIAL ATnDIGIT EIGHT
fFIVEdOUReNINEeONEdSEVENeIXdTHREEeWOdZEROjOLLAR SIGNlEQUALS SIGNkXCLAMATION MARKqFULL STOPjGRAVE ACC
ENTkEATER-THAN SIGNrHYPHEN-MINUSmLATIN CAPITAL LETTER AbBbCbDbEbFbGbHbIbJbKbLbMbNbObPbQbRbSbTbUbVbWb
XbYbZqSMALL LETTER AbBbCbDbEbFbGbHbIbJbKbLbMbNbObPbQbRbSbTbUbVbWbXbYbZtEFT CURLY BRACKETnPARENTHESIS
lSQUARE BRACKEToWHITE PARENTHESISuSS-THAN SIGNnOW LINEiMACRONgNOT SIGNhUMBER SIGNlPERCENT SIGNlLUS S
IGNiOUND SIGNkQUESTION MARKlOTATION MARKoREVERSE SOLIDUSoIGHT CURLY BRACKETnPARENTHESISlSQUARE BRACK
EToWHITE PARENTHESISxSEMICOLONiOLIDUShTILDEfVERTICAL LINEnWON SIGNiYEN SIGNqNCTION APPLICATIONrERAL
 URNjSEdVS1b2b3b4eGAME DIEgRLICfEARa WITH HANDLESiOUT HUBoM STONEgINIeNIEdOMETRIC PROPORTIONlALLY EQ
UAL TOfIVALENT TOyRGIAN CAPITAL LETTER AENcNcBANdCANcHARcINdILdDONdENcGANcHANeHAEbRcEbIEcOEdINcJHANd
ILdKANcHAReLASdMANdNARdONcPARcHAReQARdRAEdSANcHINeTANbRdUNcVINdWEcXANdYNcZENcHARtLETTER AENcINcNcBAN
dCANcHARcINdILdDONdELIFIeNcFIcGANcHANeHAEbRaD SIGNiEbIEcOEdINcJHANdILdKANcHAReLABIAL SIGNjSdMANdNARd
ONcPARcHAReQARdRAEdSANcHINeTANbRcURNED GANkUNcVINdWEcXANdYNcZENcHARlMTAVRULI CAPITAL LETTER AENcINcN
cBANdCANcHARcINdILdDONdELIFIeNcFIcGANcHANeHAEbRaD SIGNiEbIEcOEdINcJHANdILdKANcHAReLABIAL SIGNjSdMANd
NARdONcPARcHAReQARdRAEdSANcHINeTANbRcURNED GANkUNcVINdWEcXANdYNcZENcHARzdPARAGRAPH SEPARATORtSMALL L
ETTER AENcNcBANdCANcHARcINdILdDONdENcGANcHANeHAEbRcEbIEcOEdINcJHANdILdKANcHAReLASdMANdNARdONcPARcHAR
eQARdRAEdSANcHINeTANbRdUNcVINdWEcXANdYNcZENcHARyRMAN PENNY SIGNpTA MARKiHOSTeIMEL SYMBOLkRAFFE FACEj
LaS SYMBOLlLAGOLITIC CAPITAL LETTER AZUdBIG YUSgUKYeCAUDATE CHRIVInHRIVIgDJERVIfOBROeZELOfFITAdRITUf
GLAGOLIhHERUeIaNITIAL IZHElOTATED BIG YUShSMALL YUSqZHEbITSAhKAKOeLATINATE MYSLITEpJUDIJEhMYSLITEhNA
SHIfONUcTUdPEbOKOJIgRITSIfSHAbTAaPICgLOVOeMALL YUSa WITH TAILsPIDERY HAkTROKUTASTI AlSIcVRIDOgUKUdVE
DEeYATIdERIbUcSTUeObUcZEMLJAfHIVETEwSMALL LETTER AZUdBIG YUSgUKYeCAUDATE CHRIVInHRIVIgDJERVIfOBROeZE
LOfFITAdRITUfGLAGOLIhHERUeIaNITIAL IZHElOTATED BIG YUShSMALL YUSqZHEbITSAhKAKOeLATINATE MYSLITEpJUDI
JEhMYSLITEhNASHIfONUcTUdPEbOKOJIgRITSIfSHAbTAaPICgLOVOeMALL YUSa WITH TAILsPIDERY HAkTROKUTASTI AlSI
cVRIDOgUKUdVEDEeYATIdERIbUcSTUeObUcZEMLJAfHIVETEzdSS OF MILKlEICH STARKkOBE WITH MERIDIANSrVESdWING
 STARlOAL NETfTcGGLESfLFEReRILLAfTHIC LETTER AHSAdIHVUSgBAIRKANhDAGSeEISdFAIHUfGIBAeHAGLdWAIRfIGGWSe
UJAeJERdKUSMAfLAGUSfMANNAfNAUTHSfINE HUNDREDiTYgOTHALfPAIRTHRAiQAIRTHRAiRAIDAfSAUILfTEIWSeHIUTHgURUS
eWINJAsRADUATION CAPlNTHA AU LENGTH MARKoLETTER AaAbIbUcBAbHAdCAbHAdDAbDAbHAdHAdEEcGAbHAdHAcIaIcJAbH
AdKAbHAdLAbLAdMAcNAbGAcNAcYAdOOcPAbHAdRAcSAbHAcSAdTAbHAcTAbHAeUaUcVAbEDIC ANUSVARAiDOUBLE ANUSVARAuO
CALIC LaLcRaRkYAjOMcSIGN ANUSVARAhVAGRAHAiCANDRABINDUkOMBINING ANUSVARA ABOVEyNUKTAfPLUTAfVIRAMAeSAR
GAmVOWEL SIGN AAbIbUcEEcIaIcOOcUaUcVOCALIC LaLcRaRzbPESdVE ACCENTkEATER-THAN ABOVE DOUBLE-LINE EQUAL
 ABOVE LESS-THANziLESS-THAN ABOVE DOUBLE-LINE EQUALziRIGHTWARDS ARROWqSIMILAR ABOVE LESS-THANpOR EQU
ALpLANTED EQUAL ABOVE LESS-THAN ABOVE SLANTED EQUALzzeND NOT APPROXIMATEpSINGLE-LINE NOT EQUAL TOzdB
ESIDE LESS-THANpUT NOT EQUAL TOfIVALENT TOvCLOSED BY CURVEa ABOVE SLANTED EQUALzkEQUAL TO OR LESS-TH
ANvOR APPROXIMATElEQUAL TOfIVALENT TOnLESS-THANjSLANTED EQUAL TOa WITH DOT ABOVEa LEFTkINSIDEzjVER E
QUAL TOjLAPPING LESS-THANvSIGNeWITH CIRCLE INSIDEnDOTdQUESTION MARK ABOVEzjEK ACROPHONIC ATTIC FIFTY
a STATERShTALENTSgHOUSANDa STATERSuVEa HUNDREDa STATERShTALENTSpSTATERShTALENTSgHOUSANDa TALENTSvONE
 DRACHMAhHALFdUNDRED STATERShTALENTSpQUARTERhTHOUSAND STATERShTALENTSuTEN MNASeSTATERShTALENTSgHOUSA
ND STATERSzbCARYSTIAN FIVE HUNDREDvYRENAIC TWO DRACHMASvDELPHIC FIVE MNASrEPIDAUREAN FIVE HUNDREDmTW
Oa DRACHMASxHERAEUM ONE PLETHRONrMIONIAN FIFTYfONEdTENoMESSENIAN TENnNAXIAN FIVE HUNDREDtSTRATIAN FI
FTY MNAStTHESPIAN FIFTYdVE HUNDREDhTHOUSANDnONEa HUNDREDhTHOUSANDmTENcHIRTYeREE HUNDREDmWOlROEZENIAN
 FIFTYa ALTERNATE FORMsVEa HUNDREDmTENa ALTERNATE FORMzoNO TELEIAjROURA SIGNjTABE SIGNlBETA SYMBOLlC
APITAL DOTTED LUNATE SIGMA SYMBOLzbKAI SYMBOLkLETTER ALPHAa WITH DASIAa AND OXIAa AND PROSGEGRAMMENI
xPERISPOMENIa AND PROSGEGRAMMENIzeROSGEGRAMMENIoVARIAa AND PROSGEGRAMMENIzjMACRONgOXIAePROSGEGRAMMEN
InSILIa AND OXIAa AND PROSGEGRAMMENIxPERISPOMENIa AND PROSGEGRAMMENIzeROSGEGRAMMENIoVARIAa AND PROSG
EGRAMMENIzjTONOSfVARIAeRACHYqRCHAIC SAMPInBETAeCHIdDELTAfEPSILONa WITH DASIAa AND OXIAeVARIApOXIAePS
ILIa AND OXIAeVARIApTONOSfVARIArTAa WITH DASIAa AND OXIAa AND PROSGEGRAMMENIxPERISPOMENIa AND PROSGE
GRAMMENIzeROSGEGRAMMENIoVARIAa AND PROSGEGRAMMENIzjOXIAePROSGEGRAMMENInSILIa AND OXIAa AND PROSGEGRA
MMENIxPERISPOMENIa AND PROSGEGRAMMENIzeROSGEGRAMMENIoVARIAa AND PROSGEGRAMMENIzjTONOSfVARIAoGAMMAfHE
TAeIOTAa WITH DASIAa AND OXIAePERISPOMENIlVARIAoIALYTIKAjMACRONgOXIAePSILIa AND OXIAePERISPOMENIlVAR
IApTONOSfVARIAeRACHYqKAPPAfLAMDAfMUcNUcOMEGAa WITH DASIAa AND OXIAa AND PROSGEGRAMMENIxPERISPOMENIa
 AND PROSGEGRAMMENIzeROSGEGRAMMENIoVARIAa AND PROSGEGRAMMENIzjOXIAePROSGEGRAMMENInSILIa AND OXIAa AN
D PROSGEGRAMMENIxPERISPOMENIa AND PROSGEGRAMMENIzeROSGEGRAMMENIoVARIAa AND PROSGEGRAMMENIzjTONOSfVAR
IAoICRONa WITH DASIAa AND OXIAeVARIApOXIAePSILIa AND OXIAeVARIApTONOSfVARIAsPAMPHYLIAN DIGAMMArHIcIb
SIdRHOa WITH DASIAoSANcHOcIGMAfTAUcHETAfUPSILONa WITH DASIAa AND OXIAePERISPOMENIlVARIAoIALYTIKAjMAC
RONgOXIAeTONOSfVARIAeRACHYtXIcYOTdZETAkUNATE SIGMA SYMBOLtREVERSED DOTTED LUNATE SIGMA SYMBOLzbLUNAT
E SIGMA SYMBOLzdTHETA SYMBOLuDASIAa AND OXIAePERISPOMENIlVARIAoIALYTIKA AND OXIAePERISPOMENIlVARIAjT
ONOSoRACHMA SIGNmFIVE OBOLS SIGNoOUR OBOLS SIGNpGRAMMA SIGNlINDICTION SIGNmSTRUMENTAL NOTATION SYMBO
L-1a1b2b3b4b7b8b9c2a3b4b5b6b7b9c30b2b6b7b8b9c4a0b2b3b5b7b8b9c5a0b1b2b3b4c7b8zfKAI SYMBOLiPPA SYMBOLl
ORONISgYATHOS BASE SIGNrLETTER ARCHAIC KOPPAnDIGAMMAhKOPPAfSAMPIeMALL CAPITAL GAMMAfLAMDAfOMEGAfPIbS
IdRHOqTIGMAgYOTjITRA SIGNjOWER NUMERAL SIGNrUNATE EPSILON SYMBOLoSIGMA SYMBOLtMETRETES SIGNmUSICAL L
EIMMAoNUMERAL SIGNmOBOL SIGNiNE HALF SIGNa ALTERNATE FORMyQUARTER SIGNpUNKIA SIGNkXIAePERISPOMENIkHI
 SYMBOLjI SYMBOLiROSGEGRAMMENInSILIa AND OXIAePERISPOMENIlVARIApQUESTION MARKnREVERSED LUNATE EPSILO
N SYMBOLzeHO SYMBOLgWITH STROKE SYMBOLwSINUSOID SIGNmMALL DOTTED LUNATE SIGMA SYMBOLzbLETTER ALPHAa
 WITH DASIAa AND OXIAa AND YPOGEGRAMMENIwPERISPOMENIa AND YPOGEGRAMMENIzeVARIAa AND YPOGEGRAMMENIxYP
OGEGRAMMENIxMACRONgOXIAa AND YPOGEGRAMMENIwPERISPOMENIa AND YPOGEGRAMMENIzdSILIa AND OXIAa AND YPOGE
GRAMMENIwPERISPOMENIa AND YPOGEGRAMMENIzeVARIAa AND YPOGEGRAMMENIxYPOGEGRAMMENIxTONOSfVARIAa AND YPO
GEGRAMMENIwRACHYgYPOGEGRAMMENIxRCHAIC KOPPAfSAMPInBETAeCHIdDELTAeIGAMMAhEPSILONa WITH DASIAa AND OXI
AeVARIApOXIAePSILIa AND OXIAeVARIApTONOSfVARIArTAa WITH DASIAa AND OXIAa AND YPOGEGRAMMENIwPERISPOME
NIa AND YPOGEGRAMMENIzeVARIAa AND YPOGEGRAMMENIxYPOGEGRAMMENIxOXIAa AND YPOGEGRAMMENIwPERISPOMENIa A
ND YPOGEGRAMMENIzdSILIa AND OXIAa AND YPOGEGRAMMENIwPERISPOMENIa AND YPOGEGRAMMENIzeVARIAa AND YPOGE
GRAMMENIxYPOGEGRAMMENIxTONOSfVARIAa AND YPOGEGRAMMENIxYPOGEGRAMMENIwFINAL SIGMAlGAMMAfHETAeIOTAa WIT
H DASIAa AND OXIAePERISPOMENIlVARIAoIALYTIKAa AND OXIAePERISPOMENIlTONOSfVARIAtMACRONgOXIAePERISPOME
NIkSILIa AND OXIAePERISPOMENIlVARIApTONOSfVARIAeRACHYqKAPPAeOPPAfLAMDAfMUcNUcOMEGAa WITH DASIAa AND
 OXIAa AND YPOGEGRAMMENIwPERISPOMENIa AND YPOGEGRAMMENIzeVARIAa AND YPOGEGRAMMENIxYPOGEGRAMMENIxOXIA
a AND YPOGEGRAMMENIwPERISPOMENIa AND YPOGEGRAMMENIzdSILIa AND OXIAa AND YPOGEGRAMMENIwPERISPOMENIa A
ND YPOGEGRAMMENIzeVARIAa AND YPOGEGRAMMENIxYPOGEGRAMMENIxTONOSfVARIAa AND YPOGEGRAMMENIxYPOGEGRAMMEN
IwICRONa WITH DASIAa AND OXIAeVARIApOXIAePSILIa AND OXIAeVARIApTONOSfVARIAsPAMPHYLIAN DIGAMMArHIcIbS
IdRHOa WITH DASIAfPSILIoSAMPIdNcHOcIGMAeTIGMAgTAUcHETAfUPSILONa WITH DASIAa AND OXIAePERISPOMENIlVAR
IAoIALYTIKAa AND OXIAePERISPOMENIlTONOSfVARIAtMACRONgOXIAePERISPOMENIkSILIa AND OXIAePERISPOMENIlVAR
IApTONOSfVARIAeRACHYtXIcZETAlREVERSED DOTTED LUNATE SIGMA SYMBOLzbLUNATE SIGMA SYMBOLziUBSCRIPT SMAL
L LETTER BETAeCHIdGAMMAfPHIdRHOzYMBOL TAU RHOoTALENT SIGNkHETA SYMBOLkREE OBOLS SIGNkQUARTERS SIGNsO
NOSeRYBLION BASE SIGNrWO OBOLS SIGNkTHIRDS SIGNpUPSILON WITH ACUTE AND HOOK SYMBOLvDIAERESIS AND HOO
K SYMBOLzHOOK SYMBOLyVARIAeOCAL NOTATION SYMBOL-1a0b1b2b3b4b5b6b7b8b9c2a0b1b2b3b4c3b4b5a0b1b2b3b4c6b
7b8b9xXESTES SIGNlYEAR SIGNiPOGEGRAMMENInZERO SIGNlN APPLEfBOOKeHEARTfSALADjIMACING FACElNNING CAT F
ACE WITH SMILING EYESzbFACEa WITH ONE LARGE AND ONE SMALL EYEzcSMILING EYESlTAR EYESzbOUP MARKeSEPAR
ATORmWING HEARTmSbUARANI SIGNiDSMANhIDE DOGgTAReJARATI ABBREVIATION SIGNrDIGIT EIGHTfFIVEdOUReNINEeO
NEdSEVENeIXdTHREEeWOdZEROkLETTER AaAbIbUcBAbHAdCAbHAdDAbDAbHAdHAdEbGAbHAdHAcIaIcJAbHAdKAbHAdLAbLAdMA
cNAbGAcNAcYAdObPAbHAdRAcSAbHAcSAdTAbHAcTAbHAeUaUcVAbOCALIC LaLcRaRkYAcZHAkOMcRUPEE SIGNkSIGN ANUSVAR
AhVAGRAHAiCANDRABINDUkIRCLE NUKTA ABOVEsMADDAHgNUKTAfSHADDAfUKUNfTHREE-DOT NUKTA ABOVEuWO-CIRCLE NUK
TA ABOVEwVIRAMAeSARGAmVOWEL CANDRA EbOiSIGN AAbIbUcCANDRA EbOiEbIaIcObUaUcVOCALIC LaLcRaRzdNJALA GON
DI DIGIT EIGHTfFIVEdOUReNINEeONEdSEVENeIXdTHREEeWOdZEROkLETTER AaAbIbUcBAbHAdCAbHAdDAbDAbHAdHAdEEcGA
bHAdHAcIaIcJAbHAdKAbHAdLAbLAdMAcNAbGAdOOcPAbHAdRAcSAcTAbHAcTAbHAeUaUcVAcYAjOMcSIGN ANUSVARAiVISARGAm
VIRAMAfOWEL SIGN AAbIbUcEEcIaIcOOcUaUzRMUKHI ABBREVIATION SIGNqDDAKfDIGIT EIGHTfFIVEdOUReNINEeONEdSE
VENeIXdTHREEeWOdZEROkEK ONKARiIRIdLETTER AaAbIbUcBAbHAdCAbHAdDAbDAbHAdHAdEEcFAcGAbHAbHAeHAcIaIcJAbHA
dKAbHAbHAeLAbLAdMAcNAbGAcNAcYAdOOcPAbHAdRAbRAdSAbHAdTAbHAcTAbHAeUaUcVAcYAcZAjSIGN ADAK BINDIkBINDIfN
UKTAfUDAATfVIRAMAeSARGAhYAKASHlTIPPIfURAdVOWEL SIGN AAbIbUcEEcIaIcOOcUaUwHADESdIR SPACEgCUTfLFWIDTH
 BLACK SQUAREmDOWNWARDS ARROWpFORMS LIGHT VERTICALuHANGUL FILLERgLETTER AaEcCHIEUCHgIEUCfEaObUcHIEUH
fIaEUNGfKHIEUKHgIYEOKa-SIOSlMIEUMfNIEUNa-CIEUCfHIEUHlOaEcPHIEUPHgIEUPa-SIOSkRIEULa-HIEUHfKIYEOKgMIEU
MfPHIEUPHgIEUPfSIOSeTHIEUTHnSIOSdSANGCIEUCfKIYEOKgPIEUPfSIOSeTIKEUTlTHIEUTHgIKEUTgUbWAaEcEaOcIcYAaEc
EaOcIbObUqIDEOGRAPHIC COMMAfFULL STOPvKATAKANA LETTER AbEbHAbEbIbObUcIbKAbEbIbObUcMAbEbIbObUcNaAbEbI
bObUcObRAbEbIbObUcSAbEbIbMALL AbEbIbObTUcUbYAbObUhObUcTAbEbIbObUcUbWAbOcYAbObUjMIDDLE DOTkSEMI-VOICE
D SOUND MARKwVOICED SOUND MARKs-HIRAGANA PROLONGED SOUND MARKznLEFT CORNER BRACKETpWARDS ARROWpRIGHT
 CORNER BRACKETpWARDS ARROWqUPWARDS ARROWnWHITE CIRCLEuMBURGERgMERa AND PICKeSICKLEgWRENCHoSAbTER FA
CEkND WITH INDEX AND MIDDLE FINGERS CROSSEDzbFINGER AND THUMB CROSSEDzlBAGbLLeSHAKEgGUL CHOSEONG CEO
NGCHIEUMCHIEUCHgIEUCfSIOSdSANGCIEUCfSIOStHIEUCHa-HIEUHfKHIEUKHmTUEUMCHIEUCHgIEUCfSIOSdSANGCIEUCfSIOS
qIEUCa-IEUNGlFILLERgHIEUHa-SIOSkIEUNGa-CHIEUCHgIEUCfHIEUHfKIYEOKgMIEUMfPANSIOSgHIEUPHgIEUPfRIEULfSIO
SeTHIEUTHgIKEUTmKAPYEOUNMIEUMfPHIEUPHgIEUPfRIEULfSSANGPIEUPrHIEUKHgIYEOKa-TIKEUTnMIEUMa-KIYEOKgPIEUP
fSIOSeTIKEUTmNIEUNa-CIEUCfHIEUHfKIYEOKgPIEUPfSIOSeTIKEUTmPANSIOSgHIEUPHa-HIEUHfPIEUPmIEUPa-CHIEUCHgI
EUCfHIEUHfKHIEUKHgIYEOKgNIEUNfPHIEUPHhSIOSa-CIEUCfKIYEOKgPIEUPfTHIEUTHgIKEUTkSANGSIOSjTHIEUTHgIKEUTm
RIEULa-CIEUCfHIEUHfKAPYEOUNPIEUPmHIEUKHgIYEOKgMIEUMfNIEUNfPIEUPfSIOSdSANGKIYEOKgPIEUPfTIKEUTlTIKEUTm
SIOSa-CHIEUCHgIEUCfHIEUHfIEUNGfKHIEUKHgIYEOKgMIEUMfNIEUNfPHIEUPHgIEUPa-KIYEOKmRIEULfSSANGSIOSjTHIEUT
HgIKEUTkSANGCIEUCa-HIEUHlHIEUHfIEUNGfKIYEOKgNIEUNfPIEUPfRIEULfSIOSa-PIEUPkTHIEUTHgIKEUTgYEORINHIEUHq
THIEUTHgIKEUTa-CIEUCfKIYEOKgMIEUMfPIEUPfRIEULfSIOSlYEORINHIEUHjSIEUNGrDOUBLE DOT TONE MARKuFILLERgJO
NGSEONG CHIEUCHgIEUCa-PIEUPfSSANGPIEUPqHIEUHa-MIEUMfNIEUNfPIEUPfRIEULlIEUNGa-KHIEUKHgIYEOKgSSANGKIYE
OKrKAPYEOUNMIEUMfPHIEUPHgIEUPfRIEULmHIEUKHgIYEOKa-CHIEUCHhHIEUHfKHIEUKHhNIEUNfPIEUPfRIEULfSIOSa-KIYE
OKsMIEUMa-CHIEUCHgIEUCfHIEUHfKIYEOKgNIEUNfPANSIOSgIEUPa-SIOSkRIEULfSIOSdSANGNIEUNfSIOSpNIEUNa-CHIEUC
HgIEUCfHIEUHfKIYEOKgPANSIOShRIEULfSIOSeTHIEUTHgIKEUTmPANSIOSa-KAPYEOUNPIEUPnPIEUPmHIEUPHa-PIEUPfSIOS
eTHIEUTHoIEUPa-CHIEUCHgIEUCfHIEUHfMIEUMfPHIEUPHhRIEULa-PHIEUPHnSIOSa-TIKEUTlTIKEUTmRIEULa-HIEUHfKAPY
EOUNPIEUPmHIEUKHgIYEOKa-HIEUHfSIOSlMIEUMa-HIEUHfKIYEOKgSIOSkNIEUNfPANSIOSgHIEUPHgIEUPa-HIEUHfPHIEUPH
hSIOSeTIKEUTmSIOSdSANGKIYEOKgSIOSjTHIEUTHgIKEUTa-HIEUHmYEORINHIEUHa-HIEUHpSIEUNGoSIOSa-CHIEUCHgIEUCf
HIEUHfKAPYEOUNPIEUPmIYEOKgMIEUMfPANSIOSgIEUPfRIEULfTHIEUTHgIKEUTkSANGCIEUCfIEUNGfKIYEOKgMIEUMfNIEUNf
PIEUPfRIEULa-KHIEUKHnSIOSa-KIYEOKgTIKEUTlTIKEUTa-PIEUPmYESIEUNGnTHIEUTHgIKEUTa-CHIEUCHgIEUCfKIYEOKgP
IEUPfRIEULfSIOSa-KIYEOKlTHIEUTHoYEORINHIEUHjSIEUNGa-HIEUHfKHIEUKHgIYEOKgMIEUMfPANSIOShSIOSdSANGKIYEO
KzeUNGSEONG Aa-EUcObUcEbRAEAa-AbEaOcIbUhEaOa-EUcObUdUa-AbEaObUcObUeFILLERgIa-AaRAEAfEUcIbOa-IdUbYAa-
OcEcEaOcObUeOa-EaOcOa-IdUbYAaEcEaOeEcSSANGARAEAkUa-AaEcEO-EUfI-IdUbYEaOfWAaEcEaOcIcYAa-ObUbYOdEcEaOa
-ObUbYAfIa-UdOa-AaEcEOcIbObYAaEcEOfUa-AaEcEaOcIbObUbYEaOqLETTER AaEbRAEAaEgCHIEUCHgIEUCfEaObUcHIEUHf
IaEUNGfKAPYEOUNMIEUMfPHIEUPHgIEUPfSSANGPIEUPrHIEUKHgIYEOKa-SIOSlMIEUMa-PANSIOSgIEUPfSIOSkNIEUNa-CIEU
CfHIEUHfPANSIOShSIOSeTIKEUTmOaEcPANSIOSgHIEUPHgIEUPa-CIEUCfKIYEOKgSIOSa-KIYEOKgTIKEUTlTHIEUTHgIKEUTm
RIEULa-HIEUHfKIYEOKa-SIOSlMIEUMfPANSIOSgHIEUPHgIEUPa-SIOSkSIOSeTHIEUTHgIKEUTgYEORINHIEUHrSIOSa-CIEUC
fKIYEOKgNIEUNfPIEUPfTIKEUTkSANGCIEUCfHIEUHfIEUNGfKIYEOKgNIEUNfPIEUPfSIOSeTIKEUTlTHIEUTHgIKEUTgUbWAaE
cEaOcIcYAaEcEaOaRINHIEUHjSIEUNGa-PANSIOShSIOSmIbOa-IbYAaEfUa-IbYEaOnSINGLE DOT TONE MARKxZHOU NUMERA
L EIGHTfFIVEdOUReNINEeONEdSEVENeIXdTENcHIRTYeREEeWENTYeOrIFI ROHINGYA DIGIT EIGHTfFIVEdOUReNINEeONEd
SEVENeIXdTHREEeWOdZEROkLETTER AbBAcCAcDAbDAdFAcGAcHAcJAcKAbHAcINNA WAcYAiLAcMAcNAbGAcYAdPAcRAbRAdSAb
HAdTAbTAdVAcWAcYAcZAjMARK NA KHONNAjSAKINkSIGN HARBAHAYiTAHALAeNAcSSIkVOWEL AbEbIbObUuUNOO LETTER Ab
BAcDAcGAcHAcIbKAcLAcMAcNAbGAdPAcRAcSAcTAcUbWAcYAjSIGN PAMUDPODnVOWEL SIGN IbUsPPY PERSON RAISING ONE
 HANDzcRD DISKhTCHING CHICKlRAN LETTER ALEPHeYNdBETHeDALETH-RESHlGIMELfHEaTHeKAPHeLAMEDHgMEMdNUNdPEc
QOPHeSADHEdMEKHfHINeTAWcETHeWAWdYODHeZAYNlNUMBER FIVEeONEa HUNDREDlTENcWENTYtEADPHONEfSTONEa GRAVEYA
RD SYMBOLxR-NO-EVIL MONKEYpT DECORATIONkHANDSfWITH ARROWfRIBBONgTIP ON THE LEFTxVY AMPERSAND ORNAMEN
TrRROW SHAFT WIDTH ONEa HALFeTHIRDjTWO THIRDSzcSTERISKiBALLOT XhLACK CURVED DOWNWARDS AND RIGHTWARDS
 ARROWzfUPWARDS AND RIGHTWARDS ARROWzkHEARTg-FEATHERED NORTH EAST ARROWqRIGHTWARDS ARROWqSOUTH EAST
 ARROWzhCHECK MARKhVRON SNOWFLAKEqIRCLEa WITH CIRCLE INSIDEnSTROKE AND TWO DOTS ABOVEzgD SALTIREoONC
AVE-POINTED BLACK RIGHTWARDS ARROWznDASHED TRIANGLE-HEADED RIGHTWARDS ARROWznIVISION SIGNmOLLAR SIGN
jUBLE COMMA QUOTATION MARK ORNAMENTzeTURNED COMMA QUOTATION MARK ORNAMENTzqWNWARDS ARROW WITH EQUILA
TERAL ARROWHEADvLARGE EQUILATERAL ARROWHEADzxEIGHT POINTED BLACK STARkPINWHEEL STARnRECTILINEAR BLAC
K STARzfSPOKED ASTERISKpTEARDROP-SPOKED PROPELLER ASTERISKzoQUALS SIGNkXCLAMATION MARK ORNAMENTiSYMB
OLxFIVE POINTED BLACK STARsSPOKED ASTERISKtOUR BALLOON-SPOKED ASTERISKzdGREEK CROSSlHEART EXCLAMATIO
N MARK ORNAMENTzfORIZONTAL FILLpINTERROBANG ORNAMENTuLARGE CIRCLEkTIN CROSSkEFT-POINTING ANGLE BRACK
ET ORNAMENTqQUOTATION MARK ORNAMENTzoWARDS ARROW WITH EQUILATERAL ARROWHEADvLARGE EQUILATERAL ARROWH
EADzwIGATURE OPEN ET ORNAMENTyOW DOUBLE COMMA QUOTATION MARK ORNAMENTzlSINGLE COMMA QUOTATION MARK O
RNAMENTzmER RIGHT-SHADOWED WHITE RIGHTWARDS ARROWzsMINUS SIGNjULTIPLICATION XqNORTH EAST ARROWfPOINT
ING BUDdVINE LEAFxWEST POINTING BUDdVINE LEAFzeOPEN CENTRE CROSSqUTLINED BLACK STARsVAL WITH OVAL IN
SIDEvPLUS SIGNjRIGHT-POINTING ANGLE BRACKET ORNAMENTqQUOTATION MARK ORNAMENTzoWARDS ARROWa WITH EQUI
LATERAL ARROWHEADvLARGE EQUILATERAL ARROWHEADzxOUND-TIPPED RIGHTWARDS ARROWzeSALTIREfNS-SERIF INTERR
OBANG ORNAMENTzfCRIPT LIGATURE ET ORNAMENTzbINGLE COMMA QUOTATION MARK ORNAMENTzeTURNED COMMA QUOTAT
ION MARK ORNAMENTzqX POINTED BLACK STARsSPOKED ASTERISKsOUTH EAST ARROWfPOINTING BUDdVINE LEAFxWEST
 POINTING BUDdVINE LEAFzdPARKLEhTEARDROP-SHANKED RIGHTWARDS ARROWxPOKED ASTERISKiPINWHEEL ASTERISKzh
RIANGLE-HEADED RIGHTWARDS ARROWzgWELVE POINTED BLACK STARkPINWHEEL STARzdUPPER RIGHT-SHADOWED WHITE
 RIGHTWARDS ARROWzqWARDS ARROW WITH EQUILATERAL ARROWHEADvLARGE EQUILATERAL ARROWHEADzvVERTICAL BARm
WEDGE-TAILED RIGHTWARDS ARROWzdHITE CIRCLEgDOWN-POINTING TRIANGLEwSQUARElIDE-HEADED RIGHTWARDS ARROW
zhBREW ACCENT ATNAH HAFUKHmDARGAeEHIeETNAHTAhGERESHa MUQDAMkSHAYIMjILUYeMAHAPAKHhERKHAa KEFULAmUNAHf
OLEdPASHTAeZERfQADMAdRNEY PARAlREVIAfSEGOLeHALSHELETkTELISHA GEDOLAgQETANAmVIReIPEHAgYERAH BEN YOMOm
TIVfZAQEF GADOLfQATANjRQAeINORmLETTER ALEFa WITH MAPIQfPATAHfQAMATSoTERNATIVE AYINePLUS SIGNuYINeBET
a WITH DAGESHgRAFEnDALETa WITH DAGESHrFINAL KAFa WITH DAGESHpMEMdNUNdPEa WITH DAGESHoTSADIlGIMELa WI
TH DAGESHrHEa WITH MAPIQlTdKAFa WITH DAGESHgRAFEnLAMEDa WITH DAGESHrMEMa WITH DAGESHpNUNa WITH DAGES
HpPEa WITH DAGESHgRAFEmQOFa WITH DAGESHpRESHa WITH DAGESHqSAMEKHa WITH DAGESHrHINa WITH DAGESHa AND
 SHIN DOThIN DOTsSHIN DOThIN DOTrTAVa WITH DAGESHoETa WITH DAGESHoSADIa WITH DAGESHrVAVa WITH DAGESH
gHOLAMoWIDE ALEFeDALETfFINAL MEMjHEcKAFdLAMEDfRESHeTAViYODa WITH DAGESHgHIRIQoZAYINa WITH DAGESHxIGA
TURE ALEF LAMEDkYIDDISH DOUBLE VAVdYODkVAV YODhYOD YOD PATAHzfMARK LOWER DOTjMASORA CIRCLEnUPPER DOT
oPOINT DAGESH OR MAPIQpHATAF PATAHfQAMATSgSEGOLkIRIQeOLAMa HASER FOR VAVtJUDEO-SPANISH VARIKAuMETEGf
PATAHfQAMATSa QATANlUBUTSgRAFEeSEGOLeHEVAdIN DOThIN DOThTSEREkUNCTUATION GERESHdSHAYIMjMAQAFfNUN HAF
UKHAlPASEQfSOF PASUQvYOD TRIANGLErDGEHOGgLICOPTERhLSCHREIBER PAUSE SYMBOLxM SYMBOLhET WITH WHITE CRO
SSvNTAIGANA LETTER A-1b2b3bWOeE-1b2b3b4b5b6dHA-1a0b1c2b3b4b5b6b7b8b9dE-1b2b3b4b5b6b7dI-1b2b3b4b5b6b7
dO-1b2b3b4b5b6b7b8dU-1b2b3eI-1b2b3b4dKA-1a0b1c2b3b4b5b6b7b8b9bKEeE-1b2b3b4b5b6dI-1b2b3b4b5b6b7b8dO-1
b2b3bKIeU-1b2b3b4b5b6b7eMA-1b2b3b4b5b6b7dE-1b2bMAeI-1b2b3b4b5b6b7dO-1b2b3b4b5b6dU-1b2b3b4eN-MU-MO-1b
2iA-1b2b3b4b5b6b7b8b9dE-1b2b3b4b5b6bKOeI-1b2b3b4b5b6b7bTEeO-1b2b3b4b5dU-1b2b3eO-1b2b3dRA-1b2b3b4dE-1
b2b3b4dI-1b2b3b4b5b6b7dO-1b2b3b4b5b6dU-1b2b3b4b5b6eSA-1b2b3b4b5b6b7b8dE-1b2b3b4b5dI-1b2b3b4b5b6dO-1b
2b3b4b5b6b7dU-1b2b3b4b5b6b7b8eTA-1b2b3b4dE-1b2b3b4b5b6b7b8b9dI-1b2b3b4b5b6b7dO-1b2b3b4b5b6bRAeU-1b2b
3b4bTOfU-1b2b3b4b5dWA-1b2b3b4b5dE-1b2b3b4dI-1b2b3b4b5dO-1b2b3b4b5b6b7eYA-1b2b3b4b5bYOeO-1b2b3b4b5b6d
U-1b2b3b4uRBbMITIAN CONJUGATE MATRIXyXAGRAM FOR ABUNDANCEiFTER COMPLETIONpPPROACHiBEFORE COMPLETIONq
ITING THROUGHnREAKTHROUGHmCOMING TO MEETmNFLICTfTEMPLATIONnDARKENING OF THE LIGHTvECREASEgLIVERANCEj
VELOPMENTkIFFICULTY AT THE BEGINNINGzSPERSIONjURATIONiENTHUSIASMkFELLOWSHIPjOLLOWINGjGATHERING TOGET
HERrRACEdEAT POSSESSIONiWEReREPONDERANCEnTAMINGmHOLDING TOGETHERqINCREASEgFLUENCEhNER TRUTHiOCENCEjL
IMITATIONkMODESTYfUTH CORNERSnOBSTRUCTIONkPPOSITIONhRESSIONkPEACEeROGRESShUSHING UPWARDoRETREATeURNe
VOLUTIONkSMALL PREPONDERANCEnTAMINGlPLITTING APARToTANDSTILLkTHE ABYSMAL WATERmRMYcOUSING THUNDERqCA
ULDRONhLINGING FIREmREATIVE HEAVENpFAMILYgGENTLE WINDlJOYOUS LAKElKEEPING STILL MOUNTAINwMARRYING MA
IDENpRECEPTIVE EARTHpWANDERERhELLhREADINGiWAITINGgORK ON THE DECAYEDtYOUTHFUL FOLLYzbIBISCUSgGH BRIG
HTNESS SYMBOLrOCTET PRESETmVOLTAGE SIGNn-HEELED SHOElSPEED TRAINa WITH BULLET NOSEzgKING BOOTjNDU TE
MPLEkPPOPOTAMUSkRAGANA DIGRAPH YORImITERATION MARKoLETTER AaRCHAIC WUcYEkBAbEbIbObUcDAbEbIbObUcEbGAb
EbIbObUcHAbEbIbObUcIbKAbEbIbObUcMAbEbIbObUcNaAbEbIbObUcObPAbEbIbObUcRAbEbIbObUcSAbEbIbMALL AbEbIbKAb
EcObTUcUbWAbEbIbOcYAbObUhObUcTAbEbIbObUcUbVUcWAbEbIbOcYAbObUcZAbEbIbObUjVOICED ITERATION MARKzdSTORI
C SITEmOCHOdLEbLOW QUILT SQUARE ORNAMENTa IN BLACK SQUAREzrMOTHETICiNEY POTeBEEgOKcPbRIZONTAL BARcLA
CK HEXAGONhOCTAGONnELLIPSISiLINE EXTENSIONoMALE WITH STROKE SIGNvONE EIGHTH BLOCK-1358e2b3b4b5b6b7sS
CAN LINE-1b3b7b9lTAB KEYeULATIONa SETdWITH JUSTIFICATIONzdRAFFIC LIGHTvSEa FACEeRACINGkSPITALgT BEVE
RAGEiDOGdPEPPERgSPRINGSiELdURGLASSa WITH FLOWING SANDySEa BUILDINGaSjWITH GARDENqRYVNIA SIGNlTaJbScU
GGING FACEkNDRED POINTS SYMBOLtSHED FACEjTcYGIEAePHENa BULLETgWITH DIAERESISp-MINUSgATION POINToODIA
STOLEkSTERESIS SYMBOLrI LOVE YOU HAND SIGNtCE CREAMeUBEeHOCKEY STICK AND PUCKvSKATEiDENTICAL TOa AND
 SLANTED PARALLELxWITH DOT ABOVEsFICATION CARDqOGRAPHIC ANNOTATION BOTTOM MARKlEARTH MARKkFIRST MARK
jOUR MARKfTH MARKlHEAVEN MARKlLINKING MARKmMAN MARKhIDDLE MARKlONE MARKiREVERSE MARKmSECOND MARKlTHI
RD MARKiREE MARKjOP MARKhWO MARKtCLOSING MARKlOMMAfDEPARTING TONE MARKrSCRIPTION CHARACTER ABOVE TO
 BELOWfMIDDLE AND BELOWzFULL SURROUNDnLEFT TO MIDDLE AND RIGHTqRIGHTnOVERLAIDiSURROUND FROM ABOVEfBE
LOWfLEFTdOWER LEFTkUPPER LEFTeRIGHTzwENTERING TONE MARKsFULL STOPjHALF FILL SPACEpITERATION MARKoLEV
EL TONE MARKpNUMBER ZEROlRISING TONE MARKqSPACEfTALLY MARK FIVEdOUReONEdTHREEeWOnELEGRAPH LINE FEED
 SEPARATOR SYMBOLzbSYMBOL FOR APRILeUGUSTgDAY EIGHTaEENhLEVENgFIFTEENfVEdOURaTEENiNINEaTEENiONEdSEVE
NaTEENiIXaTEENhTENcHIRTEENdYa-ONEiREEeWELVEdNTYa-EIGHTfFIVEdOUReNINEeONEdSEVENeIXdTHREEeWOiOgECEMBER
iFEBRUARYiHOUR EIGHTaEENhLEVENgFIFTEENfVEdOURaTEENiNINEaTEENiONEdSEVENaTEENiIXaTEENhTENcHIRTEENgREEe
WELVEdNTYa-FOUReONEdTHREEeWOiOdZEROjJANUARYgULYcNEeMARCHdYdNOVEMBERiOCTOBERhSEPTEMBERzfVARIATION IND
ICATORzfMAGE OFa OR APPROXIMATELY EQUAL TOzhPaERIAL ARAMAIC LETTER ALEPHeYINeBETHeDALETHgGIMELfHEaTH
eKAPHeLAMEDHgMEMdNUNdPEcQOPHeRESHeSADHEdMEKHfHINeTAWcETHeWAWdYODHeZAYINmNUMBER ONEa HUNDREDhTHOUSAND
mTENa THOUSANDlHREEeWENTYeOkSECTION SIGNzdNBOX TRAYiCOMING ENVELOPEmPLETE INFINITYqREASE FONT SIZE S
YMBOLrS AShMENThDaEXa POINTING AT THE VIEWERzIAN RUPEE SIGNnC SIYAQ ALTERNATE LAKH MARKtFRACTION ONE
 HALFeQUARTERlTHREE QUARTERSxLAKH MARKjNUMBER ALTERNATE ONEdTEN THOUSANDlWOnEIGHTa HUNDREDhTHOUSANDj
Ya THOUSANDpFIFTYa THOUSANDmVEa HUNDREDhTHOUSANDmORTYa THOUSANDmURa HUNDREDhTHOUSANDnKARORaANhLAKHaA
NgNINEa HUNDREDhTHOUSANDjTYa THOUSANDpONEa HUNDREDhTHOUSANDmPREFIXED EIGHTfFIVEdOUReNINEeONEdSEVENeI
XdTHREEeWOmSEVENa HUNDREDhTHOUSANDjTYa THOUSANDpIXa HUNDREDhTHOUSANDjTYa THOUSANDoTENa THOUSANDlHIRT
Ya THOUSANDnREEa HUNDREDhTHOUSANDnWENTYa THOUSANDnOa HUNDREDhTHOUSANDtPLACEHOLDERlRUPEE MARKuFINITYa
 NEGATED WITH VERTICAL BARzgORMATION DESK PERSONlSEPARATOR FOUReONEdTHREEeWOmOURCEqHIBIT ARABIC FORM
 SHAPINGtSYMMETRIC SWAPPINGyPUT SYMBOL FOR LATIN CAPITAL LETTERSpLETTERShSMALL LETTERStNUMBERShSYMBO
LSwSCRIPTIONAL PAHLAVI LETTER ALEPHfBETHeDALETHgGIMELfHEaTHeKAPHeLAMEDHgMEM-QOPHiNUNdPEcSADHEdMEKHfH
INeTAWcETHeWAW-AYIN-RESHnYODHeZAYINmNUMBER FOUReONEa HUNDREDhTHOUSANDmTENcHREEeWENTYeOqRTHIAN LETTER
 ALEPHeYINeBETHeDALETHgGIMELfHEaTHeKAPHeLAMEDHgMEMdNUNdPEcQOPHeRESHeSADHEdMEKHfHINeTAWcETHeWAWdYODHe
ZAYINmNUMBER FOUReONEa HUNDREDhTHOUSANDmTENcHREEeWENTYeOzfERTION SYMBOLoTEGRALa AROUND A POINT OPERA
TORwVERAGE WITH SLASHsEXTENSIONjWITH DOUBLE STROKEnINTERSECTIONmLEFTWARDS ARROW WITH HOOKzOVERBARhTI
MES SIGNkUNDERBARgIONpRCALATEgIOR PRODUCTlLINEAR ANNOTATION ANCHORgSEPARATORjTERMINATORzcOCKED FEMAL
E AND MALE SIGNzcROBANGgSECTIONa ABOVE BAR ABOVE UNIONpUNIONlBESIDE AND JOINED WITH INTERSECTIONzkWI
TH DOTdLOGICAL ANDlOVERBARxVERSE BULLETgCHECK MARKfER BOARD FILLsDOWNWARDS ARROW WITH TIP LEFTWARDSz
jMEDIUM SHADEmWHITE CIRCLEpTED EXCLAMATION MARKqINTERROBANGlLAZY SfOW KAVYKAa WITH KAVYKA ABOVEzdOHM
 SIGNiPENTAGRAMjQUESTION MARKnUNDERTIEoISIBLE PLUSeSEPARATORjTIMESoZAKAYA LANTERNpJACK-O-LANTERNmPAN
ESE BANK SYMBOLlCASTLEgDOLLSfGOBLINgINDUSTRIAL STANDARD SYMBOLzbOGREePOST OFFICElSYMBOL FOR BEGINNER
zbRbVANESE CONSONANT SIGN CAKRAfKERETfPENGKALwDIGIT EIGHTfFIVEdOUReNINEeONEdSEVENeIXdTHREEeWOdZEROkL
EFT RERENGGANmTTER AaIcBAa MURDAiCAa MURDAiDAa MAHAPRANAlDAa MAHAPRANAnEbGAa MURDAiHAcIa KAWIfIcJAa
 MAHAPRANAmKAa MURDAfSASAKiLAcMAcNAa MURDAhGAa LELETa RASWADIqYAa MURDAjObPAa CEREKfMURDAiRAa AGUNGi
SAa MAHAPRANAiURDAiTAa MURDAhTAa MAHAPRANAnUbWAcYAjPADA ADEGa ADEGiNDAPfISEN-ISENjLINGSAfUHURdNGSIgM
ADYAfPANGKATgISELEHhTIRTA TUMETESnWINDUiNGKONdRANGKEPlRIGHT RERENGGANpSIGN CECAKa TELUkLAYARfPANYANG
GAjWIGNYANmTURNED PADA PISELEHtVOWEL SIGN DIRGA MUREkPEPETfSUKUa MENDUTlTALINGeRUNGfOLONGgWULUa MELI
KzeEANSeIGSAW PUZZLE PIECEsOINcYSTICKhUGGLINGgNOcPITERhKAABAdITHI ABBREVIATION SIGNrDANDAeOUBLE DAND
AfSECTION MARKtENUMERATION SIGNqLETTER AaAbIbUcBAbHAdCAbHAdDAbDAbDHAdHAdHAdEbGAbHAdHAcIaIcJAbHAdKAbH
AdLAcMAcNAbGAcNAcYAdObPAbHAdRAbHAdSAbHAcSAdTAbHAcTAbHAeUaUcVAcYAjNUMBER SIGNa ABOVErSECTION MARKlIGN
 ANUSVARAiCANDRABINDUlNUKTAfVIRAMAeSARGAmVOWEL SIGN AAbIbUcEbIaIcObUaUcVOCALIC RzNGAROOeXI RADICAL A
GAINeNDcRRIVEdOWeXEdBADGEReMBOOfEANdIGbRDcTTERfLACKdOODdUEdOATcDYcLT OF CLOTHlNEcWcRANCHeISTLEfUSHfC
ARTcULDRONgVEdHILDeITYdLANbWcIFFdOTHESgOLORdMPAREfRPSEeVERdWdDEATHdERdIPPEReSHbTINGUISHjVINATIONjO N
OTeGbORcTaTED CLIFFfTENTjUBLE XgWN BOXhRAGONeUMcYdEARaTHdTcIGHTeMBROIDERYjNCLOSUREhTEReVENaINGgYEdFA
CEcNGcTHERfEATHERgIELDdGHTdREcSHdLUTEdYcOOTdRAGRANTgOGdURdGATEdHOSTeOa SLOWLYhLDdRAINcSSfHAIRcLBERDe
F TREE TRUNKnNDdEADbRTdMPdIDING ENCLOSUREpOOKcRNbSEfICEcNCHcSECTgJADEcRdKNIFEfLACKcMEdEAFbTHERfEKcGS
dIDbFEcNEdONGa STRIDElMANcEATcLONeILLETeNISTERhOONcRNINGeTAReUNDbTAINfTHfNETcOSEcTdOLDcNEaSELFgPEN B
OXgPOSEgPIGcLOWdOWEReRIVATEfOFOUNDiRAINcPbTcEDcICEcGHT OPEN BOXmVEReOOFdUNdSACRIFICIAL WINEoLTcYcCHO
LARfRIPTfEALcCONDeEbLFdHEEPcLLdOOTcRT TAILED BIRDkHREADlICKNESSgLKdKINdLASHcVEdICEeMALLeNOUTeOUNDePE
ARcECHeIRITeOONdROUTfQUAREfTANDdEAMcPcONEcPaPINGhUNcWEETfTABLEdLLcNNED LEATHERnENcIGERdLEdONGUEeOTHe
RACKdEEcIPODfURBANdTLEfWOa HANDSjUSEdVALLEYfILLAGEhWALKa ENCLOSUREmTEReEAPONeSTdHEATdITEeINDbEdOMANd
RKdRAPcONGfYELLOWsNADA AI LENGTH MARKoDIGIT EIGHTfFIVEdOUReNINEeONEdSEVENeIXdTHREEeWOdZEROkLENGTH MA
RKjTTER AaAbIbUcBAbHAdCAbHAdDAbDAbHAdHAdEaEcFAcGAbHAdHAcIaIcJAbHAdKAbHAdLAbLAbLAeMAcNAaKAARA POLLUmG
AcNAcYAdOaOcPAbHAdRAbRAdSAbHAcSAdTAbHAcTAbHAeUaUcVAbOCALIC LaLcRaRkYAjSIGN ANUSVARAhVAGRAHAiCANDRABI
NDUlJIHVAMULIYAlNUKTAfSIDDHAMgPACING CANDRABINDUtUPADHMANIYAlVIRAMAeSARGAmVOWEL SIGN AAbIbUcEaEcIaIc
OaOcUaUcVOCALIC LaLcRaRzcTAKANA DIGRAPH KOTOmITERATION MARKoLETTER AaRCHAIC EbWUcYEbIkBAbEbIbObUcDAb
EbIbObUcEbGAbEbIbObUcHAbEbIbObUcIbKAbEbIbObUcMAbEbIaNNAN NASALIZED TONE-1b2b3b4b5b7b8qTONE-2b3b4b5b7
b8mObUcNaAbEbIbObUcObPAbEbIbObUcRAbEbIbObUcSAbEbIbMALL AbEbHAbEbIbObUcIbKAbEbUcMUcNaUcObRAbEbIbObUcS
IbUcTObUcUbWAbEbIbOcYAbObUhObUcTAbEbIbObUcUbVAbEbIbObUcWAbEbIbOcYAbObUcZAbEbIbObUjMIDDLE DOTkVOICED
 ITERATION MARKw-HIRAGANA DOUBLE HYPHENnPROLONGED SOUND MARKuSEMI-VOICED SOUND MARKwVOICED SOUND MAR
KziYAH LI DIGIT EIGHTfFIVEdOUReNINEeONEdSEVENeIXdTHREEeWOdZEROkLETTER AbBAcCAcDAcGAcHAbTAdIbKAbHAdLA
cMAcNAbGAcYAdOEbOcPAbHAdRAcSAbHAdTAbHAdVAcWAcYAcZAjSIGN CWIdSHYAjTONE CALYAa PLOPHUmPLOPHUlVOWEL EaE
cObUaEqELVIN SIGNjYaBOARDa AND MOUSEpCAP TENjHAROSHTHI DIGIT FOUReONEdTHREEeWOjFRACTION ONE HALFrLET
TER AbBAbHAdCAbHAdDAbDAbHAdHAdGAbHAdHAcJAcKAbHAcKAdLAcMAcNAbNAcYAdPAbHAdRAcSAbHAcSAdTAbHAcTAbHAcTAbH
AfVAbHAdYAcZAjNUMBER ONE HUNDREDhTHOUSANDmTENcWENTYnPUNCTUATION CIRCLEfRESCENT BARmDANDAeOTbUBLE DAN
DAmLINESeOTUSfMANGALAMiSMALL CIRCLEySIGN ANUSVARAiBAR ABOVEjCAUDAfDOT BELOWhUBLE RING BELOWrVISARGAm
VIRAMAfOWEL LENGTH MARKlSIGN EbIbObUbVOCALIC RzeITAN SMALL SCRIPT CHARACTER-18B00b1b2b3b4b5b6b7b8b9b
AbBbCbDbEbFc10b1b2b3b4b5b6b7b8b9bAbBbCbDbEbFc20b1b2b3b4b5b6b7b8b9bAbBbCbDbEbFc30b1b2b3b4b5b6b7b8b9bA
bBbCbDbEbFc40b1b2b3b4b5b6b7b8b9bAbBbCbDbEbFc50b1b2b3b4b5b6b7b8b9bAbBbCbDbEbFc60b1b2b3b4b5b6b7b8b9bAb
BbCbDbEbFc70b1b2b3b4b5b6b7b8b9bAbBbCbDbEbFc80b1b2b3b4b5b6b7b8b9bAbBbCbDbEbFc90b1b2b3b4b5b6b7b8b9bAbB
bCbDbEbFcA0b1b2b3b4b5b6b7b8b9bAbBbCbDbEbFcB0b1b2b3b4b5b6b7b8b9bAbBbCbDbEbFcC0b1b2b3b4b5b6b7b8b9bAbBb
CbDbEbFcD0b1b2b3b4b5b6b7b8b9bAbBbCbDbEbFcE0b1b2b3b4b5b6b7b8b9bAbBbCbDbEbFcF0b1b2b3b4b5b6b7b8b9bAbBbC
bDbEbFdC00b1b2b3b4b5b6b7b8b9bAbBbCbDbEbFc10b1b2b3b4b5b6b7b8b9bAbBbCbDbEbFc20b1b2b3b4b5b6b7b8b9bAbBbC
bDbEbFc30b1b2b3b4b5b6b7b8b9bAbBbCbDbEbFc40b1b2b3b4b5b6b7b8b9bAbBbCbDbEbFc50b1b2b3b4b5b6b7b8b9bAbBbCb
DbEbFc60b1b2b3b4b5b6b7b8b9bAbBbCbDbEbFc70b1b2b3b4b5b6b7b8b9bAbBbCbDbEbFc80b1b2b3b4b5b6b7b8b9bAbBbCbD
bEbFc90b1b2b3b4b5b6b7b8b9bAbBbCbDbEbFcA0b1b2b3b4b5b6b7b8b9bAbBbCbDbEbFcB0b1b2b3b4b5b6b7b8b9bAbBbCbDb
EbFcC0b1b2b3b4b5b6b7b8b9bAbBbCbDbEbFcD0b1b2b3b4b5pFILLERyMER CURRENCY SYMBOL RIELuDIGIT EIGHTfFIVEdO
UReNINEeONEdSEVENeIXdTHREEeWOdZEROkINDEPENDENT VOWEL LYaYdQAAbIbQbUcEbIaIcOO TYPE ONEdTWOlUaKbUaVeRY
aYvLETTER BAcCAbHAbOcOcDAbOcHAcKAbHAbOcOcLAbOcMOcNGOcNOcObYOdPHAbOcOcQAcROcSAbHAcSOdTAbHAbOcObTHAbOe
VOcYOjSIGN AHSDAeTTHACANhVAKRAHASANYAnBANTOCeRIYOOSANiTHAMASATjEYYALgCAMNUC PII KUUHoOENGfKAKABATgHA
NdOOMUUThLEK TOOhMUUSIKATOANlNIKAHIThPHNAEK MUANlREAHMUKgOBATfSAMYOK SANNYAnTOANDAKHIATkRIISAPhVIRIA
MgYUUKALEAPINTUrYMBOL BEI KOETeROCgUON KOETeROCiDAP KOETeROCe-BEI KOETeROCgUON KOETeROCiMUOY KOETeRO
CiPII KOETeROCgRAM KOETeROCmLEK ATTAK BEIcUONeMUOYePIIcRAMa-BEIcUONeMUOYePIIiSONnMUOY KOETeROCiPATHA
MASATjII KOETeROCgRAM KOETeROCe-BEI KOETeROCgUON KOETeROCiMUOY KOETeROCiPII KOETeROCmTUTEYASATqVOWEL
 INHERENT AAbQlSIGN AAbEbIbUcEbIaEbIcOEbOcUaAbUcYaAbYrOJKI ABBREVIATION SIGNrDANDAeOUBLE DANDAfSECTI
ON MARKtLETTER AaAbIbUcBAbBAcHAdCAbHAdDAbDAbDAcHAdHAdEbGAbGAcHAdHAcIbJAbJAdKAbHAdLAbLAdMAcNAbGAcNAcY
AdObPAbHAdRAcSAcTAbHAcTAbHAeUbVAcYAjSECTION MARKlIGN ANUSVARAiNUKTAfSHADDAfUKUNfVIRAMAlVOWEL SIGN AA
bIbUcEbIaIcObUmWORD SEPARATORtUDAWADI DIGIT EIGHTfFIVEdOUReNINEeONEdSEVENeIXdTHREEeWOdZEROkLETTER Aa
AbIbUcBAbBAcHAdCAbHAdDAbDAbDAcHAdHAdEbGAbGAcHAdHAcIaIcJAbHAcJAdKAbHAdLAcMAcNAbGAcNAcYAdObPAbHAdRAbRA
dSAbHAdTAbHAcTAbHAeUaUcVAcYAjSIGN ANUSVARAiNUKTAfVIRAMAlVOWEL SIGN AAbIbUcEbIaIcObUaUwIMONOeP SIGNgS
Sa MARKfING CAT FACE WITH CLOSED EYESzFACEa WITH CLOSED EYESlSMILING EYESzdTEcWIFRUITiNEELING PERSON
nOTdOALAdREAN STANDARD SYMBOLvRONOSgL B BAR SYMBOLnAB COATfELdCROSSE STICK AND BALLvDDERdY BEETLEjNG
UAGE TAGkO CANCELLATION MARKrDIGIT EIGHTfFIVEdOUReNINEeONEdSEVENeIXdTHREEeWOdZEROkELLIPSISiHO MOcNOf
KO LAfLETTER BOcCOcDOcFO FAYcONdSUNGeTAMgHO SUNGeTAMgKHMU GOcNYOgO SUNGeTAMgOcLOa LINGdOOThMOcNGOcOb
YOdObPALI BHAdCHAdDDAbHAdHAdGHAdJHAdLLAdNNAcYAdTTAbHAiHO SUNGeTAMgOcROcSANSKRIT SHAcSAlO SUNGeTAMgTH
O SUNGeTAMgOcWOcYOjNIGGAHITAjSEMIVOWEL SIGN LOcNYOrIGN PALI VIRAMAqTONE MAI CATAWAgEKcTHOcIlVOWEL SI
GN AaAbIbMbYcEaIcIaIcMAI KANcONhObUaUcYaYpRGE BLUE CIRCLEgDIAMONDhSQUAREkROWN CIRCLEgSQUAREmCIRCLEgD
OWN TACKjGREEN CIRCLEgSQUAREmLEFT TRIANGLE OPERATORwONE DOT OVER TWO DOTS PUNCTUATIONzeRING OVER TWO
 RINGS PUNCTUATIONzjRANGE CIRCLEgDIAMONDhSQUAREnPURPLE CIRCLEgSQUAREnRED CIRCLEgSQUAREkTRIPLE VERTIC
AL BAR OPERATORzcWO DOTS OVER ONE DOT PUNCTUATIONzeRINGS OVER ONE RING PUNCTUATIONzkUP TACKhYELLOW C
IRCLEgSQUAREoR THANa OR EQUAL TOuI SIGNhST QUARTER MOONa SYMBOLgWITH FACEzTIN CAPITAL LETTER Aa WITH
 ACUTEfBREVEa AND ACUTEfDOT BELOWjGRAVEfHOOK ABOVEkTILDEpCARONeIRCUMFLEXa AND ACUTEfDOT BELOWjGRAVEf
HOOK ABOVEkTILDEuDIAERESISa AND MACRONtOT ABOVEa AND MACRONqBELOWhUBLE GRAVEmGRAVEfHOOK ABOVEkINVERT
ED BREVEoMACRONgOGONEKgRING ABOVEa AND ACUTEpBELOWkSTROKEgTILDElAbEa WITH ACUTEfMACRONnFRICAN DiLPHA
eNGLICANA WkObUbVa WITH HORIZONTAL BARvYcBa WITH DOT ABOVEfBELOWjFLOURISHiHOOKeLINE BELOWkSTROKEgTOP
BARmETAdROKEN LiCa WITH ACUTEfBARdCARONeEDILLAa AND ACUTEqIRCUMFLEXkDOT ABOVEjHOOKePALATAL HOOKmSTRO
KEmHIcLOSED INSULAR GpONcUATRILLOa WITH COMMAuDa WITH CARONeEDILLAgIRCUMFLEX BELOWqDOT ABOVEfBELOWjH
OOKeLINE BELOWkSHORT STROKE OVERLAYtMALL LETTER Za WITH CARONyTROKEgTOPBARmZa WITH CARONnEa WITH ACU
TEfBREVEfCARONeEDILLAa AND BREVEqIRCUMFLEXa AND ACUTEfDOT BELOWjGRAVEfHOOK ABOVEkTILDEjBELOWqDIAERES
ISiOT ABOVEfBELOWhUBLE GRAVEmGRAVEfHOOK ABOVEkINVERTED BREVEoMACRONa AND ACUTEfGRAVEqOGONEKgSTROKEgT
ILDEa BELOWrGYPTOLOGICAL AINcLEFrNGcSHcTaHcZHa REVERSEDiWITH CARONoFa WITH DOT ABOVEjHOOKeSTROKEnGa
 WITH ACUTEfBREVEfCARONeEDILLAgIRCUMFLEXkDOT ABOVEjHOOKeMACRONgOBLIQUE STROKEoSTROKEmAMMAeHAcLOTTAL
 AbIbSTOPeUjHa WITH BREVE BELOWlCARONeEDILLAgIRCUMFLEXkDESCENDERiIAERESISiOT ABOVEfBELOWjHOOKeSTROKE
mALF HfENGdWAIRfIa WITH ACUTEfBREVEfCARONeIRCUMFLEXkDIAERESISa AND ACUTEsOT ABOVEfBELOWhUBLE GRAVEmG
RAVEfHOOK ABOVEkINVERTED BREVEoMACRONgOGONEKgSTROKEgTILDEa BELOWrNSULAR DbFbGbRbSbTiOTAdScJa WITH CI
RCUMFLEXjROSSED-TAILmSTROKEnKa WITH ACUTEfCARONeEDILLAhDESCENDERiIAGONAL STROKEoOT BELOWjHOOKeLINE B
ELOWkOBLIQUE STROKEoSTROKEa AND DIAGONAL STROKEziLa WITH ACUTEfBARcELTeCARONeEDILLAgIRCUMFLEX BELOWq
DOT BELOWa AND MACRONsUBLE BARkHIGH STROKElLINE BELOWkMIDDLE DOTdTILDEmSMALL LETTER JnTROKEmJcMa WIT
H ACUTEfDOT ABOVEfBELOWjHOOKkIDDLE SCOTS Si-WELSH LLcVoNa WITH ACUTEfCARONeEDILLAgIRCUMFLEX BELOWqDE
SCENDERiOT ABOVEfBELOWjGRAVEfLEFT HOOKiINE BELOWjONG RIGHT LEGoOBLIQUE STROKEoSMALL LETTER JoTILDElJ
cOa WITH ACUTEfBREVEfCARONeIRCUMFLEXa AND ACUTEfDOT BELOWjGRAVEfHOOK ABOVEkTILDEuDIAERESISa AND MACR
ONtOT ABOVEa AND MACRONqBELOWhUBLE ACUTEfGRAVEmGRAVEfHOOK ABOVEiRNa AND ACUTEfDOT BELOWjGRAVEfHOOK A
BOVEkTILDEoINVERTED BREVEoLONG STROKE OVERLAYrOPeMACRONa AND ACUTEfGRAVEpIDDLE TILDEmOGONEKa AND MAC
RONrSTROKEa AND ACUTEqTILDEa AND ACUTEfDIAERESISjMACRONwIbLD POLISH OlMEGAeObPEN EbOfUcPa WITH ACUTE
fDOT ABOVEjFLOURISHiHOOKeSQUIRREL TAILmTROKEa THROUGH DESCENDERzgQa WITH DIAGONAL STROKEpSTROKE THRO
UGH DESCENDERzgRa ROTUNDAhWITH ACUTEfCARONeEDILLAhDOT ABOVEfBELOWa AND MACRONsUBLE GRAVEmINVERTED BR
EVEoLINE BELOWkOBLIQUE STROKEoSTROKEgTAILkEVERSED C WITH DOTkEbHALF HgOPEN EoUM ROTUNDAlSa WITH ACUT
Ea AND DOT ABOVEtCARONa AND DOT ABOVEsEDILLAgIRCUMFLEXjOMMA BELOWlDOT ABOVEfBELOWa AND DOT ABOVExHOO
KeOBLIQUE STROKEoSHORT STROKE OVERLAYtWASH TAILqALTILLOhCHWAdRIPT GhHARP SgIGMOID SiMALL CAPITAL IjQ
 WITH HOOK TAILwTa WITH CARONeEDILLAgIRCUMFLEX BELOWpOMMA BELOWlDIAGONAL STROKEoOT ABOVEfBELOWjHOOKe
LINE BELOWkRETROFLEX HOOKoSTROKEmHORNa WITH STROKEa THROUGH DESCENDERzjONE FIVEeSIXdTWOhRESILLOhURNE
D AaLPHAfHbINSULAR GjKbLbMbTbVhZcUa BARdWITH ACUTEfBREVEfCARONeIRCUMFLEXa BELOWqDIAERESISa AND ACUTE
fCARONfGRAVEfMACRONkBELOWoOT BELOWhUBLE ACUTEfGRAVEmGRAVEfHOOK ABOVEiRNa AND ACUTEfDOT BELOWjGRAVEfH
OOK ABOVEkTILDEoINVERTED BREVEoMACRONa AND DIAERESISuOGONEKgRING ABOVEkSTROKEgTILDEa AND ACUTEjBELOW
rPSILONhVa WITH DIAGONAL STROKEoOT BELOWjHOOKeTILDElENDdISIGOTHIC ZlOLAPUK AEcOEcUEjYcWa WITH ACUTEf
CIRCUMFLEXkDIAERESISiOT ABOVEfBELOWjGRAVEfHOOKkYNNeXa WITH DIAERESISiOT ABOVEqYa WITH ACUTEfCIRCUMFL
EXkDIAERESISiOT ABOVEfBELOWjGRAVEfHOOKa ABOVEkLOOPeMACRONgSTROKEgTILDElOGHeZa WITH ACUTEfCARONeIRCUM
FLEXkDESCENDERiOT ABOVEfBELOWjHOOKeLINE BELOWkPALATAL HOOKmSTROKEfWASH TAILxIGATURE IJcOEsROSSfEPIGR
APHIC LETTER ARCHAIC MjI LONGAgNVERTED MkREVERSED FbPkSIDEWAYS IzdLETTER AINcLVEOLAR CLICKoBIDENTAL
 PERCUSSIVErLABIAL CLICKfPERCUSSIVEtDENTAL CLICKmGLOTTAL STOPa WITH STROKEyINVERTED GLOTTAL STOPa WI
TH CURLeSTROKEziLATERAL CLICKnPHARYNGEAL VOICED FRICATIVEzcRETROFLEX CLICKa WITH RETROFLEX HOOKziVER
SED ESH LOOPiGLOTTAL STOP WITH STROKEziSINOLOGICAL DOToMALL CAPITAL AaEcBaARRED BiCbDbEaTHcZHdFbGa W
ITH HOOKlHbIaNVERTED RkJbKbLa WITH BELTeSTROKEnMbNbOaEbPEN OfUcPbQbRa WITH RIGHT LEGpEVERSED NbRjUMd
SbTaURNED EbGbKbMbRiUbVbWbYbZoTRETCHED Ca WITH CURLvTWO WITH STROKEpVOICED LARYNGEAL SPIRANTyWYNNeYR
jSMALL CAPITAL LETTER I WITH STROKEnU WITH STROKEzdLETTER Aa REVERSED-SCHWAoWITH ACUTEfBREVEa AND AC
UTEfDOT BELOWjGRAVEfHOOK ABOVEkTILDEpCARONeIRCUMFLEXa AND ACUTEfDOT BELOWjGRAVEfHOOK ABOVEkTILDEuDIA
ERESISa AND MACRONtOT ABOVEa AND MACRONqBELOWhUBLE GRAVEmGRAVEfHOOK ABOVEkINVERTED BREVEoMACRONgOGON
EKgRETROFLEX HOOKnIGHT HALF RINGnNG ABOVEa AND ACUTEpBELOWkSTROKEgTILDElAbEa WITH ACUTEfMACRONnLPHAa
 WITH RETROFLEX HOOKyNGLICANA WkObUbVa WITH HORIZONTAL BARvYcBa WITH DOT ABOVEfBELOWjFLOURISHiHOOKeL
INE BELOWkMIDDLE TILDEmPALATAL HOOKmSTROKEgTOPBARmARRED ALPHAfEbOgSELINE ESHlETAdLACKLETTER EbOa WIT
H STROKEyOTTOM HALF OmROKEN LiCa WITH ACUTEfBARdCARONeEDILLAa AND ACUTEqIRCUMFLEXjURLeDOT ABOVEjHOOK
ePALATAL HOOKmRETROFLEX HOOKoSTROKEmHIa WITH LOW LEFT SERIFkRIGHT RINGwLOSED INSULAR GjOMEGAePEN EgR
EVERSED OPEN EvONcUATRILLOa WITH COMMAuDa WITH CARONeEDILLAgIRCUMFLEX BELOWpURLeDOT ABOVEfBELOWjHOOK
a AND TAILnLINE BELOWkMIDDLE TILDEmPALATAL HOOKmSHORT STROKE OVERLAYtTROKEgTAILdOPBARmB DIGRAPHjELTA
dZH DIGRAPHa WITH PALATAL HOOKmRETROFLEX HOOKzgOTLESS IbJa WITH STROKEa AND HOOKzdUBLE Ra WITH CROSS
ED-TAILtTHORNfWYNNkUMcZa DIGRAPHa WITH CURLeRETROFLEX HOOKzcWITH CARONnEa WITH ACUTEfBREVEfCARONeEDI
LLAa AND BREVEqIRCUMFLEXa AND ACUTEfDOT BELOWjGRAVEfHOOK ABOVEkTILDEjBELOWqDIAERESISiOT ABOVEfBELOWh
UBLE GRAVEmFLOURISHiGRAVEfHOOK ABOVEkINVERTED BREVEoMACRONa AND ACUTEfGRAVEqNOTCHfOGONEKgRETROFLEX H
OOKoSTROKEgTILDEa BELOWrGYPTOLOGICAL AINcLEFrNGa WITH CROSSED-TAILmPALATAL HOOKuSHa WITH CURLeDOUBLE
 BARa AND CURLtPALATAL HOOKmRETROFLEX HOOKwTaHcZHa REVERSEDiWITH CARONeURLePALATAL HOOKmRETROFLEX HO
OKoTAILnFa WITH DOT ABOVEjHOOKeMIDDLE TILDEmPALATAL HOOKmSTROKEmENG DIGRAPHa WITH TRILLxGa WITH ACUT
EfBREVEfCARONeEDILLAgIRCUMFLEXkDOT ABOVEjHOOKeMACRONgOBLIQUE STROKEoPALATAL HOOKmSTROKEmAMMAeHAcLOTT
AL AbIbSTOPeUjHa WITH BREVE BELOWlCARONeEDILLAgIRCUMFLEXkDESCENDERiIAERESISiOT ABOVEfBELOWjHOOKeLINE
 BELOWkPALATAL HOOKmSTROKEmALF HfENGa WITH HOOKnVcIa WITH ACUTEfBREVEfCARONeIRCUMFLEXkDIAERESISa AND
 ACUTEsOT BELOWhUBLE GRAVEmGRAVEfHOOK ABOVEkINVERTED BREVEoMACRONgOGONEKgRETROFLEX HOOKoSTROKEa AND
 RETROFLEX HOOKzTILDEa BELOWrNSULAR DbFbGbRbSbThVERTED ALPHAfOEkOTAa WITH STROKEnIFIED EjScJa WITH C
ARONeIRCUMFLEXjROSSED-TAILmSTROKEnKa WITH ACUTEfCARONeEDILLAhDESCENDERiIAGONAL STROKEoOT BELOWjHOOKe
LINE BELOWkOBLIQUE STROKEoPALATAL HOOKmSTROKEa AND DIAGONAL STROKEzhRAdLa WITH ACUTEfBARcELTa AND PA
LATAL HOOKvCARONeEDILLAgIRCUMFLEX BELOWpURLeDOT BELOWa AND MACRONsUBLE BARdMIDDLE TILDEtFISHHOOKiHIG
H STROKElINVERTED LAZY SpLINE BELOWkMIDDLE DOTdRINGeTILDEmPALATAL HOOKmRETROFLEX HOOKa AND BELTxSTRO
KEmAMBDA WITH STROKErENIS FfZHa WITH RETROFLEX HOOKxJbONG Sa WITH DIAGONAL STROKEoOT ABOVEjHIGH STRO
KEwS DIGRAPHjUMcZ DIGRAPHkMa WITH ACUTEfCROSSED-TAILmDOT ABOVEfBELOWjHOOKeMIDDLE TILDEmPALATAL HOOKs
IDDLE SCOTS Si-WELSH LLcVnUMdNa PRECEDED BY APOSTROPHEwWITH ACUTEfCARONeEDILLAgIRCUMFLEX BELOWpROSSE
D-TAILlURLeDESCENDERiOT ABOVEfBELOWjGRAVEfLEFT HOOKiINE BELOWjONG RIGHT LEGoMIDDLE TILDEmOBLIQUE STR
OKEoPALATAL HOOKmRETROFLEX HOOKoTILDElJbUMdOa WITH ACUTEfBREVEfCARONeIRCUMFLEXa AND ACUTEfDOT BELOWj
GRAVEfHOOK ABOVEkTILDEuDIAERESISa AND MACRONtOT ABOVEa AND MACRONqBELOWhUBLE ACUTEfGRAVEmGRAVEfHOOK
 ABOVEiRNa AND ACUTEfDOT BELOWjGRAVEfHOOK ABOVEkTILDEoINVERTED BREVEoLONG STROKE OVERLAYrOPcW RING I
NSIDEpMACRONa AND ACUTEfGRAVEqOGONEKa AND MACRONrRETROFLEX HOOKoSTROKEa AND ACUTEqTILDEa AND ACUTEfD
IAERESISjMACRONwIbLD POLISH OlMEGAeObPEN Ea WITH RETROFLEX HOOKvOa WITH RETROFLEX HOOKoSTROKEmEgUcPa
 WITH ACUTEfDOT ABOVEjFLOURISHiHOOKeMIDDLE TILDEmPALATAL HOOKmSQUIRREL TAILmTROKEa THROUGH DESCENDER
zfHIdQa WITH DIAGONAL STROKEpHOOKa TAILjSTROKE THROUGH DESCENDERzfP DIGRAPHkRa ROTUNDAhWITH ACUTEfCA
RONeEDILLAgROSSED-TAILmDOT ABOVEfBELOWa AND MACRONsUBLE GRAVEmFISHHOOKa AND MIDDLE TILDEmPALATAL HOO
KzINVERTED BREVEoLINE BELOWjONG LEGiMIDDLE TILDEmOBLIQUE STROKEoPALATAL HOOKmSTROKEgTAILfOUT HANDLEp
AMS HORNiEVERSED Ca WITH DOTkEaNGdHALF HgKbOPEN Ea WITH HOOKeRETROFLEX HOOKzbR WITH FISHHOOKpSCRIPT
 GqUMa ROTUNDAlSa WITH ACUTEa AND DOT ABOVEtCARONa AND DOT ABOVEsEDILLAgIRCUMFLEXjOMMA BELOWkURLeDOT
 ABOVEfBELOWa AND DOT ABOVExHOOKeMIDDLE TILDEmOBLIQUE STROKEoPALATAL HOOKmSHORT STROKE OVERLAYtWASH
 TAILqAKHA YAThLTILLOhCHWAa WITH HOOKeRETROFLEX HOOKxRIPT Ga WITH CROSSED-TAILtRa WITH RINGrHARP SgI
DEWAYS DIAERESIZED UnOa WITH STROKEmPEN OgTURNED MiUiGMOID SiQUAT REVERSED ESHrTIRRUP RjTa WITH CARO
NeEDILLAgIRCUMFLEX BELOWpOMMA BELOWkURLeDIAERESISgGONAL STROKEoOT ABOVEfBELOWjHOOKa AND RETROFLEX HO
OKxLINE BELOWkMIDDLE TILDEmPALATAL HOOKmRETROFLEX HOOKoSTROKEmAILLESS PHIlC DIGRAPH WITH CURLtESH DI
GRAPHa WITH PALATAL HOOKmRETROFLEX HOOKzgH WITH STRIKETHROUGHtORNa WITH STROKEa THROUGH DESCENDERzjO
NE FIVEeSIXdTWOgP HALF OjRESILLOhS DIGRAPHa WITH RETROFLEX HOOKzeUMbRNED AaEbLPHAfDELTAfEbGbHa WITH
 FISHHOOKa AND TAILyIaNSULAR GjKbLbMa WITH LONG LEGpO OPEN-Oa WITH STROKEtEa WITH HORIZONTAL STROKEr
STROKEnPEN EgRa WITH HOOKeLONG LEGa AND RETROFLEX HOOKzcMIDDLE TILDEmPALATAL HOOKmTAILlTa WITH CURLl
UIcVbWbYa WITH BELTrZcUa BARa WITH SHORT RIGHT LEGyWITH ACUTEfBREVEfCARONeIRCUMFLEXa BELOWqDIAERESIS
a AND ACUTEfCARONfGRAVEfMACRONkBELOWoOT BELOWhUBLE ACUTEfGRAVEmGRAVEfHOOK ABOVEiRNa AND ACUTEfDOT BE
LOWjGRAVEfHOOK ABOVEkTILDEoINVERTED BREVEoLEFT HOOKjMACRONa AND DIAERESISuOGONEKgRETROFLEX HOOKnING
 ABOVEkSHORT RIGHT LEGoTROKEgTILDEa AND ACUTEjBELOWrEbIbMbObPSILONa WITH STROKEtVa WITH CURLeDIAGONA
L STROKEoOT BELOWjHOOKePALATAL HOOKmRIGHT HOOKkTILDElENDdISIGOTHIC ZlOLAPUK AEcOEcUEjYcWa WITH ACUTE
fCIRCUMFLEXkDIAERESISiOT ABOVEfBELOWjGRAVEfHOOKeRING ABOVErXa WITH DIAERESISiOT ABOVEjLONG LEFT LEGa
 AND LOW RIGHT RINGsWITH SERIFwW RIGHT RINGoPALATAL HOOKtYa WITH ACUTEfCIRCUMFLEXkDIAERESISiOT ABOVE
fBELOWjGRAVEfHOOKa ABOVEkLOOPeMACRONgRING ABOVEkSHORT RIGHT LEGoTROKEgTILDElOGHeZa WITH ACUTEfCARONe
IRCUMFLEXjURLeDESCENDERiOT ABOVEfBELOWjHOOKeLINE BELOWkMIDDLE TILDEmPALATAL HOOKmRETROFLEX HOOKoSTRO
KEfWASH TAILxIGATURE FFaIbLcIbLcIJcLONG S TiOEcSTqUBSCRIPT SMALL LETTER AbEbHbIbJbKbLbMbNbObPbRbSaCH
WAfTbUbVbXzeEAF FLUTTERING IN WINDtY GREENjDGEReFT AND LOWER AND RIGHT TRIANGULAR THREE QUARTERS BLO
CKzqONE EIGHTH BLOCKwRIGHT DOUBLE TURNSTILEqTACKdRIANGULAR HALF BLOCKzcUPPER AND RIGHT TRIANGULAR TH
REE QUARTERS BLOCKzqONE EIGHTH BLOCKyGER BUBBLEjLE BRACKETa WITH DOTvRC LESS-THAN BRACKETtROW WITH C
IRCLED PLUSmSMALL CIRCLExBARB DOWN RIGHT BARB DOWN HARPOONmUP HARPOONzbUP RIGHT BARB DOWN HARPOONmUP
 HARPOONzdLACK LENTICULAR BRACKETsTORTOISE SHELL BRACKETzdCEILINGgLOSED ENTRYlORNER BRACKETnURLY BRA
CKETa LOWER HOOKkMIDDLE PIECEmUPPER HOOKyDOTTED SUBSTITUTION BRACKETzUBLE ANGLE BRACKETnPARENTHESISl
QUOTATION MARKoWIGGLY FENCEtFISH TAILhVE EIGHTHS BLOCKrLOORfHALF BLACK CIRCLEgSTARiOCKfCIRCLEa WITH
 DOTdFOUR DOTSjTHREE DOTSjWO DOTSuFOLDERgINVERSE MEDIUM SHADE AND RIGHT HALF BLOCKzqMEDIUM SHADEmRUN
NING MANoND TELEPHONE RECEIVERxLOW PARAPHRASE BRACKETvUGGAGEhMULTIMAPiNORMAL FACTOR SEMIDIRECT PRODU
CTzhONE EIGHTH BLOCKmQUARTER BLOCKqUTER JOINkPARENTHESISa EXTENSIONjLOWER HOOKkUPPER HOOKwRAISED OMI
SSION BRACKETwIGHT ARROWa THROUGH SMALL CIRCLEuWITH DOUBLE VERTICAL STROKEwSTROKEgVERTICAL STROKEzbB
LACK ARROWlDOUBLE ARROWa WITH STROKEgVERTICAL STROKEziOPEN-HEADED ARROWrSANS-SERIF ARROWqTRIANGLE-HE
ADED ARROWvWAVE ARROWjHITE ARROWrS-SHAPED BAG DELIMITERvEMIDIRECT PRODUCTqVEN EIGHTHS BLOCKsIDEWAYS
 U BRACKETqNGLE QUOTATION MARKuPEECH BUBBLEmQUARE BRACKETa EXTENSIONjLOWER CORNERmUPPER CORNERmWITH
 DOUBLE STROKEnQUILLfSTROKEgTICK IN BOTTOM CORNERnTOP CORNERsUNDERBARzcUBSTITUTION BRACKETuTACKdHIRD
 WHITE RIGHT POINTING INDEXzfOUGHT BUBBLEmREE EIGHTHS BLOCKnQUARTERS BLOCKtORTOISE SHELL BRACKETvRAN
SPOSITION BRACKETtIANGLE BESIDE VERTICAL BARwULAR ONE QUARTER BLOCKzdVERTICAL BAR WITH QUILLnOX LINE
rWHITE CORNER BRACKETnURLY BRACKETnLENTICULAR BRACKETsPARENTHESISlSQUARE BRACKEToTORTOISE SHELL BRAC
KETzcIGGLY FENCElRITING HANDn-FACING ARMENIAN ETERNITY SIGNwFISTeSVASTI SIGNa WITH DOTSzdHANDED INTE
RLACED PENTAGRAMzcPOINTING ANGLE BRACKETnCURVED ANGLE BRACKETuDOUBLE ANGLE QUOTATION MARKzcMAGNIFYIN
G GLASSzSHADED WHITE RIGHTWARDS ARROWzdIDE ARC ANTICLOCKWISE ARROWzdTO-RIGHT EMBEDDINGjISOLATEhMARKe
OVERRIDEsWARDS ARROWa ABOVE ALMOST EQUAL TOpREVERSE ALMOST EQUAL TOpTILDE OPERATORwSHORT RIGHTWARDS
 ARROWwTILDE OPERATORtND UPPER AND LOWER ONE EIGHTH BLOCKzlFROM BARa TO BLACK DIAMONDzOVER RIGHTWARD
S ARROWvTHROUGH LESS-THANjSUBSETgXiO BARa OVER RIGHTWARDS ARROW TO BARzgLACK DIAMONDqWITH DOTTED STE
MjUBLE VERTICAL STROKEwEQUILATERAL ARROWHEADvHOOKeLARGE TRIANGLE ARROWHEADxOOPeMEDIUM TRIANGLE ARROW
HEADzNOTCHED TAILmPLUS BELOWkSMALL EQUILATERAL ARROWHEADvTRIANGLE ARROWHEADxTROKEgTAILa WITH DOUBLE
 VERTICAL STROKEwVERTICAL STROKEyIP DOWNWARDSjUPWARDSlVERTICAL STROKEv-TAILkBACK-TILTED SHADOWED WHI
TE ARROWzgLACK ARROWfCIRCLED WHITE ARROWyOTTOM-SHADED WHITE ARROWzCOMPRESSED ARROWqDASHED ARROWlOUBL
E ARROWa FROM BARiWITH STROKEgVERTICAL STROKEv-TAILkDASH ARROWrFINGER-POST ARROWqRONT-TILTED SHADOWE
D WHITE ARROWziHANDcRPOON OVER RIGHTWARDS HARPOONxWITH BARB DOWN ABOVE RIGHTWARDS HARPOON WITH BARB
 DOWNzoBELOW LONG DASHpFROM BARiTO BARhWARDSjUP ABOVE LEFTWARDS HARPOON WITH BARB DOWNzgONG DASHjRIG
HTWARDS HARPOON WITH BARB UPzmFROM BARiTO BARhWARDSyEAVY ARROWfCOMPRESSED ARROWwLEFT-SHADED WHITE AR
ROWxOPEN-HEADED ARROWrPAIRED ARROWSnQUADRUPLE ARROWpRIGHT-SHADED WHITE ARROWxOCKETgSANS-SERIF ARROWp
QUARED ARROWkIGGLE ARROWoTOP SHADED WHITE ARROWvRIANGLE ARROWHEADk-HEADED ARROWa OVER RIGHTWARDS TRI
ANGLE-HEADED ARROWzmTO BARgWITH BOLD SHAFTkDOUBLE HORIZONTAL STROKErVERTICAL STROKEwHEAVY SHAFTlLONG
 TIP DOWNWARDSjUPWARDSqMEDIUM SHAFTmNARROW SHAFTmVERY HEAVY SHAFTzcDASHED ARROWmPAIRED ARROWSzbPLE A
RROWfDASH ARROWqWO HEADED ARROWn-HEADED ARROW FROM BARiWITH DOUBLE VERTICAL STROKEwTAILa WITH DOUBLE
 VERTICAL STROKEwVERTICAL STROKEyRIANGLE ARROWHEADStVERTICAL STROKEzbTRIPLE DASH ARROWzdWAVE ARROWjH
ITE ARROWa WITHIN TRIANGLE ARROWHEADzuGbMONdOaPARDfPCHA CONSONANT SIGN KaANGeLbMbNaYIN-DOhPbRbTqDIGI
T EIGHTfFIVEdOUReNINEeONEdSEVENeIXdTHREEeWOdZEROkLETTER AbBAbLAdCAbHAdDAbDAcZAdFAbLAdGAbLAdHAbLAdJAc
KAbHAcLAdLAcMAbLAdNAbGAcYAdPAbHAcLAdRAcSAbHAdTAbHAcSAbHAdTAbHAeVAcWAcYAjPUNCTUATION CER-WAgNYET THYO
OM TA-ROLsTA-ROLfSHOOKa CER-WAzSIGN NUKTAfRANhUBJOINED LETTER RAcYAtVOWEL SIGN AAcEbIbOaOcUaUsSS-THA
N ABOVE DOUBLE-LINE EQUAL ABOVE GREATER-THANzlGREATER-THAN ABOVE DOUBLE-LINE EQUALzlLEFTWARDS ARROWp
SIMILAR ABOVE GREATER-THANsOR EQUALpLANTED EQUAL ABOVE GREATER-THAN ABOVE SLANTED EQUALzzhND NOT APP
ROXIMATEpSINGLE-LINE NOT EQUAL TOzdBUT NOT EQUAL TOfIVALENT TOvCLOSED BY CURVEa ABOVE SLANTED EQUALz
kEQUAL TO OR GREATER-THANyOR APPROXIMATElEQUAL TOfIVALENT TOnGREATER-THANmSLANTED EQUAL TOa WITH DOT
 ABOVEa RIGHTlINSIDEzjVER EQUAL TOnSIGNeWITH CIRCLE INSIDEnDOTdQUESTION MARK ABOVEzhVEL SLIDERlFbIBR
AdGATURE OPEN ET ORNAMENTwHT CHECK MARKkEIGHT SPOKED ASTERISKvFIVE POINTED BLACK STARsSPOKED ASTERIS
KtOUR POINTED BLACK CUSPeSTARxGREEK CROSSlLEFT TORTOISE SHELL BRACKET ORNAMENTzlRAILdIGHT TORTOISE S
HELL BRACKET ORNAMENTzmSALTIREgHADEeIX SPOKED ASTERISKtTHREE POINTED BLACK STARxWELVE POINTED BLACK
 STARzVERTICAL BARmWHITE SQUAREnNINGa MOODa BUBBLEtMBU DIGIT EIGHTfFIVEdOUReNINEeONEdSEVENeIXdTHREEe
WOdZEROkEXCLAMATION MARKqLETTER BAbHAdCAbHAdDAbHAdGAbHAcYANeHAcJAbHAdKAbHAdLAcMAcNAbGAdPAbHAdRAcSAbH
AcSAdTAbHAcRAdWAcYAaNkQUESTION MARKnSIGN KEMPHRENGjLOOdMUKPHRENGjSA-IiMALL LETTER ANUSVARAiKAcLAcMAc
NAbGAdPAcRAcTAoUBJOINED LETTER RAcWAcYAtVOWEL SIGN AaIbUcEaEcIbOaOcUh-CARRIER LETTERxITED LIABILITY
 SIGNuNE FEEDeINTEGRATION NOT INCLUDING THE POLEwWITH RECTANGULAR PATH AROUND POLEzdSEMICIRCULAR PAT
H AROUND POLEzvSEPARATORjTABULATIONa SETpAR A SIGN A028Be100-102g20Bd31Ce301b2b3b4b5b6b7b8b9AbBbCd10
b1b2b3AbBbCc4b5b6b7b8b9c20b1b2b3b4b5b6b7b8b9c30b1b2b3b4b5b6b7b8b9c40b1b2b3b4b5b6b7b8b9c50b1b2b3b4b5b
6b7b8b9c60b1b2b3b4b5b6b7b8b9c70b1d400-VASf1-VASf2-VASf3-VASf4-VASf5-VASf6-VASf7-VASf8-VASf9-VASg10-V
ASf1-VASf2-VASf3-VASf4-VASf5-VASf6-VASf7-VASf8-VASh501b2b3b4b5b6b8b9c10b1b2b3b5b6c20b1b3b4b5b6b7b8b9
c30b1b2b4b5b6b7b8b9c40b1b2b5b7b8b9c50b1b2b3b4b5b6b7b9c63b4b5b6b8b9c70b1b2b3b4b5b6b7b8b9c80b1b2b3b4b5
b6b7b8b9c91b2b4b5b6b8d600b1b2b3b4b6b8b9c10b1b2b3b4b5b6b7b8b9c20b1b2b3b4b6b7b8b9c34b7b8c40b2b3b4b5b6b
8b9c51b2b3b4b5b6b7b8b9c60b1b2b3b4d701 Ad2 Bd3 Dd4 Ed5 Fd6 Hd7 Jd8 Kd9 Lc-2 L2e3 L3e4 L4e6 L6h10 Wd1
 Xd2 Yd3 OMEGAh4 ABBf5 BBe7 DDf26 EYYYh32 JEg800b1b2b3b4b5b6b7dB001b2b3b4b5b6b7b8b9c10b1b3b6b7c20b1a
FbMc2aFbMc3aMc4b6b7b8b9c30b1b4b7b8b9c40b1b4b5b6b7b8b9c50b1b3b4b5b6b7b8b9c60b1b5b6b7b9c70b3b4b6b7b8b9
c80b1b2b5b6b7d118c20b2b3c31AbBd64c71c80b8c91mB IDEOGRAM B100 MANf2 WOMANh4 DEERg5 EQUIDgF MAREgM STA
LLIONl6F EWEfM RAMg7F SHE-GOATkM HE-GOATk8F SOWfM BOARh9F COWfM BULLi20 WHEATh1 BARLEYi2 OLIVEh3 SPI
CEh5 CYPERUSk30 OILf1 WINEg2c40 BRONZEi1 GOLDg2b5 WOOLg6c50b1 HORNg2b3b4b7b8b9 CLOTHi60b1b2 GARMENTj
3 ARMOURi4b5b6b7b8b9c70b1b2b3 MONTHh4b6 TREEg7b8b9c80b1b2b3b4b5b9c90b1 HELMETk220 FOOTSTOOLl5 BATHTU
Bk30 SPEARh1 ARROWh2b3 SWORDh4b6c40 WHEELED CHARIOTr1 CHARIOTj2 CHARIOT FRAMEp3 WHEELh5b6b8b9c51b2b3
b4 DARTg5b6b7b8b9eVESSEL B155d200b1b2b3b4b5b6b7b8b9c10b1b2b3b4b5b6b7b8b9c21b2b6b7b8b9c50d305uMONOGRA
M B127 KAPOg8 KANAKOj33 AREPAh5 MERIh56 TURO2j247 DIPTEtSYLLABLE B001 DAe2 ROe3 PAe4 TEe5 TOe6 NAe7
 DIe8 Ad9 SEf10 Ud1 POe2 SOe3 MEe4 DOe5 MOe6 QAe7 ZAf20 ZOe1 QIe3 MUe4 NEe5 A2e6 RUe7 REe8 Id9 PU2g3
0 NIe1 SAe2 QOe3 RA3f6 JOe7 TIe8 Ed9 PIf40 WIe1 SIe2 WOe3 A3e4 KEe5 DEe6 JEe8 NWAg50 PUe1 DUe2 NOe3
 RIe4 WAe5 NUe7 JAe8 SUe9 TAf60 RAe1 Od2 PTEf5 JUe6 TA2f7 KIe8 RO2f9 TUf70 KOe1 DWEf2 PEe3 MIe4 ZEe5
 WEe6 RA2f7 KAe8 QEf80 MAe1 KUe5 AUe7 TWEg90 DWOf1 TWOpMBOL B018b9c22c34c47b9c56c63b4c79c82b3b6b9rK
 SYMBOLhED PAPERCLIPSpON FACEhPSaTICKgRA SIGNhSU LETTER AaEcBAcCAbHAdDAbZAdEaUcFAcGAbHAdHAbHAdIbJAcK
AbHAdLAcMAcNAbGAdOaEcPAbHAdSAbHAdTAbHAcONE MYA BOcCYAdJEUdNAcTIgNA POjSAbHAeUaEbHcWAcXAcYAbHAdZAbHAk
PUNCTUATION COMMAfFULL STOPyVRE TOURNOIS SIGNrZARDfLAMAeOBSTERfCKa WITH INK PENnING-SHIFT ONEdZEROqG
ICAL ANDa WITH DOT ABOVEhUBLE OVERBARhUNDERBARpHORIZONTAL DASHpMIDDLE STEMlUNDERBARrORa OVERLAPPING
 LOGICAL ANDxWITH DOT ABOVEhUBLE OVERBARhUNDERBARpHORIZONTAL DASHpMIDDLE STEMzLLIPOPgNG DASH FROM LE
FT MEMBER OF DOUBLE VERTICALzoIVISIONhRUMeLEFT RIGHT ARROWfDOUBLE ARROWsTACKfWARDS ARROWa FROM BARoD
OUBLE ARROWa FROM BARvSQUIGGLE ARROWyRIGHT TACKfWARDS ARROWa FROM BARoDOUBLE ARROWa FROM BARvSQUIGGL
E ARROWzdTION BOTTLEkUSdUDLY CRYING FACEqVE HOTELfLETTERjW ASTERISKiBATTERYgRIGHTNESS SYMBOLrDOUBLE
 PRIME QUOTATION MARKzcKAVYKAa WITH DOTpLINEfER BLADE SCISSORSoFIVE EIGHTHS BLOCKsHALF BLOCKfCIRCLEg
INVERSE WHITE CIRCLEuMEDIUM SHADErLEFT BALLPOINT PENmLOCK DIAGONAL LOWER MIDDLE LEFT TO LOWER CENTRE
gRIGHTzhUPPER CENTRE TO LOWER MIDDLE RIGHTmRIGHTlUPPER MIDDLE RIGHTzdLEFT TO LOWER CENTREgMIDDLE RIG
HTsUPPER MIDDLE RIGHTzbMIDDLE LEFT TO LOWER CENTREgMIDDLE RIGHTmRIGHTzwCRAYONgFOUNTAIN PENmPAINTBRUS
HjENCILgQUADRANT CIRCULAR ARCvSEMICIRCULAR ANTICLOCKWISE ARROWzhTRIANGLEcULAR MEDIUM SHADEzdONE EIGH
TH BLOCKmQUARTER BLOCKrRIGHT BLOCK DIAGONAL LOWER CENTRE TO LOWER MIDDLE RIGHTsUPPER MIDDLE RIGHTmRI
GHTvLEFT TO LOWER MIDDLE RIGHTsUPPER CENTREgMIDDLE RIGHTzbMIDDLE LEFT TO UPPER CENTREgMIDDLE RIGHTmR
IGHTzhUPPER MIDDLE LEFT TO UPPER CENTREgRIGHTzwCORNER WITH DOTpDROP-SHADOWED WHITE SQUAREzbPENCILgQU
ADRANT CIRCULAR ARCvSEMICIRCULAR CLOCKWISE ARROWzcHADOWED WHITE CIRCLEgSQUAREvTRIANGLEcULAR MEDIUM S
HADEzeSEVEN EIGHTHS BLOCKtTHREE EIGHTHS BLOCKnQUARTERS BLOCKtRIANGULAR ONE QUARTER BLOCKzhZENGEa DIV
IDED BY HORIZONTAL RULEziREbIbMbOcUGGAGEfNGSeYCIAN LETTER AaNcBaHcDbEaNcGbHbIbJbKaKcLbMaMcNaNcPbQbRb
SbTaHbTcUbWbXbZnDIAN LETTER AaNcBbCbDbEaNcFbGbIbKbLaYcMbNaNcObQbRbSaScTaTcUbVbYiTRIANGULAR MARKuING
 FACEkMACRONeGEbIC WANDhNETeHAJANI ABBREVIATION SIGNrLETTER AbBAbHAdCAbHAdDAbDAbHAdHAdEbGAbHAdHAcIbJ
AbHAdKAbHAdLAcMAcNAbNAcYAdObPAbHAdRAbRAdSAcTAbHAcTAbHAeUbVAiIGATURE SHRInSECTION MARKlIGN NUKTAqJONG
 TILE AUTUMNgBACKcMBOOgCHRYSANTHEMUMnEAST WINDiIGHT OF BAMBOOShCHARACTERSjIRCLESqFIVE OF BAMBOOShCHA
RACTERSjIRCLESoOUR OF BAMBOOShCHARACTERSjIRCLESpGREEN DRAGONmJOKERfNINE OF BAMBOOShCHARACTERSjIRCLES
oORTH WINDkONE OF BAMBOOShCHARACTERSjIRCLESnRCHIDgPLUMeRED DRAGONkSEVEN OF BAMBOOShCHARACTERSjIRCLES
pIX OF BAMBOOShCHARACTERSjIRCLESnOUTH WINDjPRINGfUMMERgTHREE OF BAMBOOShCHARACTERSjIRCLESpWO OF BAMB
OOShCHARACTERSjIRCLESoWEST WINDiHITE DRAGONlINTERrKASAR ANGKAfEND OF SECTIONoLETTER AbBAcCAcDAcGAcJA
cKAcLAcMAcNAbGAcYAdPAcRAcSAcTAcVAcYAjPASSIMBANGkVOWEL SIGN EbIbObUsLAYALAM AU LENGTH MARKoDATE MARKi
IGIT EIGHTfFIVEdOUReNINEeONEdSEVENeIXdTHREEeWOdZEROkFRACTION ONE EIGHTHgFIFTHeORTIETHiHALFeONE-HUNDR
ED-AND-SIXTIETHyQUARTERhSIXTEENTHjTENTHeWENTIETHnTHREE EIGHTIETHSkQUARTERSiSIXTEENTHSkTWENTIETHSzLET
TER AaAbIbRCHAIC IIjUcBAbHAdCAbHAbILLU KbLaLaLdMbNaNcRRcYiDAbDAbHAdHAcOT REPHiEaEcGAbHAdHAcIaIcJAbHA
dKAbHAdLAbLAbLAeMAcNAbGAcNAbNAdYAdOaOcPAbHAdRAbRAdSAbHAcSAdTAbHAcTAbHAcTAeUaUcVAbEDIC ANUSVARAnOCALI
C LaLcRaRkYAjNUMBER ONE HUNDREDhTHOUSANDmTENkSIGN ANUSVARAhVAGRAHAiCANDRABINDUkIRCULAR VIRAMAoOMBINI
NG ANUSVARA ABOVEyPARAeVERTICAL BAR VIRAMAsIRAMAeSARGAmVOWEL SIGN AAbIbUcEaEcIaIcOaOcUaUcVOCALIC LaL
cRaRzdE AND FEMALE SIGNpSIGNeWITH STROKE AND MALE AND FEMALE SIGNySIGNsTESE CROSSlMMOTHfNa AND WOMAN
 HOLDING HANDSxDANCINGhIN BUSINESS SUIT LEVITATINGyTUXEDOjWITH GUA PI MAOkTURBANmAT SIGNhDAIC AFFRIC
ATION MARKqGEMINATION MARKpLETTER ABbDbGbHbINcKaSAdLbMbNbPbQbRbSaHbZcTaTcZcDUSHENNAiHALQAfINbTcKADdU
SHENNAoPUNCTUATIONlVOCALIZATION MARKwGOcICHAEAN ABBREVIATION MARK ABOVEfBELOWxLETTER AAYINeLEPHeYINe
BETHdHETHfDALETHfHAMEDHhFEcGHIMELfIMELfHEaTHeJAYINeHAYINgKAPHdHAPHfLAMEDHgMEMdNUNdPEcQHOPHeOPHeRESHe
SADHEdMEKHfHINdSHINfTAWcETHdHAMEDHhWAWdXAPHdOPHeYODHeZAYINeHAYINnNUMBER FIVEeONEa HUNDREDlTENcWENTYn
PUNCTUATION DOTa WITHIN DOTmUBLE DOT WITHIN DOTvFLEURONhLINE FILLERlSTAReTWO DOTSuSIGN UDpS SHOEgTEL
PIECE CLOCKoUAL WHEELCHAIRpP SYMBOL FOR LIGHTHOUSEwLE LEAFiRCHEN HEAD MARKjLETTER -AcAbBAcCAbHAdDAbZ
AdGAcHAcJAcKAbHAdLAcMAcNAbGAcYAdPAbHAdRAcSAbHAdTAbHAcSAbHAeWAcYAcZAbHAkMARK SHADjSIGN ANUSVARAiCANDR
ABINDUpUBJOINED LETTER AbBAcCAbHAdDAbZAdGAcHAcJAcKAbHAdLAcMAcNAbGAcYAdPAbHAdRAcSAbHAdTAbHAcSAbHAeWAc
YAcZAbHAuVOWEL SIGN AAcEbIbObUrRIAGE SYMBOLmTIAL ARTS UNIFORMsSARAM GONDI DIGIT EIGHTfFIVEdOUReNINEe
ONEdSEVENeIXdTHREEeWOdZEROkLETTER AaAbIbUcBAbHAdCAbHAdDAbDAbHAdHAdEbGAbHAdHAcIaIcJAbHAcNYAeKAbHAcSSA
eLAbLAdMAcNAbGAcNAcYAdObPAbHAdRAcSAbHAcSAdTAbHAcRAcTAbHAeUaUcVAcYAjRA-KARAgEPHAfSIGN ANUSVARAiCANDRA
gHALANTAhNUKTAfVISARGAmVIRAMAfOWEL SIGN AAbIbUcEbIaIcObUaUcVOCALIC RzgCULINE ORDINAL INDICATORyK WOR
K SYMBOLnU MARKhTE DRINKhHEMATICAL BOLD CAPITAL AaLPHAfBaETAeCaHIdDaELTAeIGAMMAhEaPSILONgTAdFbGaAMMA
fHbIaOTAeJbKaAPPAfLaAMDAfMaUcNaUcOaMEGAdICRONhPaHIcIbSIdQbRaHOdSaIGMAfTaAUcHETAa SYMBOLmUaPSILONhVbW
bXaIcYbZaETAmDIGIT EIGHTfFIVEdOUReNINEeONEdSEVENeIXdTHREEeWOdZEROkEPSILON SYMBOLoFRAKTUR CAPITAL AbB
bCbDbEbFbGbHbIbJbKbLbMbNbObPbQbRbSbTbUbVbWbXbYbZjSMALL AbBbCbDbEbFbGbHbIbJbKbLbMbNbObPbQbRbSbTbUbVbW
bXbYbZpITALIC CAPITAL AaLPHAfBaETAeCaHIdDaELTAfEaPSILONgTAdFbGaAMMAfHbIaOTAeJbKaAPPAfLaAMDAfMaUcNaUc
OaMEGAdICRONhPaHIcIbSIdQbRaHOdSaIGMAfTaAUcHETAa SYMBOLmUaPSILONhVbWbXaIcYbZaETAmEPSILON SYMBOLoKAPPA
 SYMBOLmNABLAfPARTIAL DIFFERENTIALtHI SYMBOLjI SYMBOLjRHO SYMBOLkSMALL AaLPHAfBaETAeCaHIdDaELTAfEaPS
ILONgTAdFaINAL SIGMAlGaAMMAfHbIaOTAeJbKaAPPAfLaAMDAfMaUcNaUcOaMEGAdICRONhPaHIcIbSIdQbRaHOdSaIGMAfTaA
UcHETAfUaPSILONhVbWbXaIcYbZaETAkTHETA SYMBOLtKAPPA SYMBOLmNABLAfPARTIAL DIFFERENTIALtHI SYMBOLjI SYM
BOLjRHO SYMBOLkSCRIPT CAPITAL AbBbCbDbEbFbGbHbIbJbKbLbMbNbObPbQbRbSbTbUbVbWbXbYbZjSMALL AbBbCbDbEbFb
GbHbIbJbKbLbMbNbObPbQbRbSbTbUbVbWbXbYbZnMALL AaLPHAfBaETAeCaHIdDaELTAeIGAMMAhEaPSILONgTAdFaINAL SIGM
AlGaAMMAfHbIaOTAeJbKaAPPAfLaAMDAfMaUcNaUcOaMEGAdICRONhPaHIcIbSIdQbRaHOdSaIGMAfTaAUcHETAfUaPSILONhVbW
bXaIcYbZaETAkTHETA SYMBOLrDOUBLE-STRUCK CAPITAL AbBbDbEbFbGbIbJbKbLbMbObSbTbUbVbWbXbYjDIGIT EIGHTfFI
VEdOUReNINEeONEdSEVENeIXdTHREEeWOdZEROkSMALL AbBbCbDbEbFbGbHbIbJbKbLbMbNbObPbQbRbSbTbUbVbWbXbYbZvFAL
LING DIAGONALpRAKTUR CAPITAL AbBbDbEbFbGbJbKbLbMbNbObPbQbSbTbUbVbWbXbYjSMALL AbBbCbDbEbFbGbHbIbJbKbL
bMbNbObPbQbRbSbTbUbVbWbXbYbZpITALIC CAPITAL AaLPHAfBaETAeCaHIdDaELTAfEaPSILONgTAdFbGaAMMAfHbIaOTAeJb
KaAPPAfLaAMDAfMaUcNaUcOaMEGAdICRONhPaHIcIbSIdQbRaHOdSaIGMAfTaAUcHETAa SYMBOLmUaPSILONhVbWbXaIcYbZaET
AmEPSILON SYMBOLoKAPPA SYMBOLmNABLAfPARTIAL DIFFERENTIALtHI SYMBOLjI SYMBOLjRHO SYMBOLkSMALL AaLPHAf
BaETAeCaHIdDaELTAeOTLESS IbJjEaPSILONgTAdFaINAL SIGMAlGaAMMAfIaOTAeJbKaAPPAfLaAMDAfMaUcNaUcOaMEGAdIC
RONhPaHIcIbSIdQbRaHOdSaIGMAfTaAUcHETAfUaPSILONhVbWbXaIcYbZaETAkTHETA SYMBOLtLEFT ANGLE BRACKETnDOUBL
E ANGLE BRACKETuFLATTENED PARENTHESISvWHITE SQUARE BRACKEToTORTOISE SHELL BRACKETziMONOSPACE CAPITAL
 AbBbCbDbEbFbGbHbIbJbKbLbMbNbObPbQbRbSbTbUbVbWbXbYbZjDIGIT EIGHTfFIVEdOUReNINEeONEdSEVENeIXdTHREEeWO
dZEROkSMALL AbBbCbDbEbFbGbHbIbJbKbLbMbNbObPbQbRbSbTbUbVbWbXbYbZrRIGHT ANGLE BRACKETnDOUBLE ANGLE BRA
CKETuFLATTENED PARENTHESISvWHITE SQUARE BRACKEToTORTOISE SHELL BRACKETzhSING DIAGONALpSANS-SERIF BOL
D CAPITAL AaLPHAfBaETAeCaHIdDaELTAfEaPSILONgTAdFbGaAMMAfHbIaOTAeJbKaAPPAfLaAMDAfMaUcNaUcOaMEGAdICRON
hPaHIcIbSIdQbRaHOdSaIGMAfTaAUcHETAa SYMBOLmUaPSILONhVbWbXaIcYbZaETAmDIGIT EIGHTfFIVEdOUReNINEeONEdSE
VENeIXdTHREEeWOdZEROkEPSILON SYMBOLoITALIC CAPITAL AaLPHAfBaETAeCaHIdDaELTAfEaPSILONgTAdFbGaAMMAfHbI
aOTAeJbKaAPPAfLaAMDAfMaUcNaUcOaMEGAdICRONhPaHIcIbSIdQbRaHOdSaIGMAfTaAUcHETAa SYMBOLmUaPSILONhVbWbXaI
cYbZaETAmEPSILON SYMBOLoKAPPA SYMBOLmNABLAfPARTIAL DIFFERENTIALtHI SYMBOLjI SYMBOLjRHO SYMBOLkSMALL
 AaLPHAfBaETAeCaHIdDaELTAfEaPSILONgTAdFaINAL SIGMAlGaAMMAfHbIaOTAeJbKaAPPAfLaAMDAfMaUcNaUcOaMEGAdICR
ONhPaHIcIbSIdQbRaHOdSaIGMAfTaAUcHETAfUaPSILONhVbWbXaIcYbZaETAkTHETA SYMBOLtKAPPA SYMBOLmNABLAfPARTIA
L DIFFERENTIALtHI SYMBOLjI SYMBOLjRHO SYMBOLkSMALL AaLPHAfBaETAeCaHIdDaELTAfEaPSILONgTAdFaINAL SIGMA
lGaAMMAfHbIaOTAeJbKaAPPAfLaAMDAfMaUcNaUcOaMEGAdICRONhPaHIcIbSIdQbRaHOdSaIGMAfTaAUcHETAfUaPSILONhVbWb
XaIcYbZaETAkTHETA SYMBOLrCAPITAL AbBbCbDbEbFbGbHbIbJbKbLbMbNbObPbQbRbSbTbUbVbWbXbYbZjDIGIT EIGHTfFIV
EdOUReNINEeONEdSEVENeIXdTHREEeWOdZEROkITALIC CAPITAL AbBbCbDbEbFbGbHbIbJbKbLbMbNbObPbQbRbSbTbUbVbWbX
bYbZjSMALL AbBbCbDbEbFbGbHbIbJbKbLbMbNbObPbQbRbSbTbUbVbWbXbYbZoSMALL AbBbCbDbEbFbGbHbIbJbKbLbMbNbObP
bQbRbSbTbUbVbWbXbYbZrCRIPT CAPITAL AbCbDbGbJbKbNbObPbQbSbTbUbVbWbXbYbZjSMALL AbBbCbDbFbHbIbJbKbLbMbN
bPbQbRbSbTbUbVbWbXbYbZzXIMIZEgYAN NUMERAL EIGHTaEENhLEVENgFIFTEENfVEdOURaTEENiNINEaTEENiONEdSEVENaTE
ENiIXaTEENhTENcHIRTEENgREEeWELVEeOdZEROrEASURED ANGLEa OPENING LEFTmWITH OPEN ARM ENDING IN ARROW PO
INTING DOWN AND LEFTeRIGHToLEFT AND DOWNeUPlRIGHT AND DOWNeUPmUP AND LEFTeRIGHTzzhBYcRIGHT ANGLE WIT
H DOTzbT ON BONEkCHANICAL ARMdLEGmDEFAIDRIN CAPITAL LETTER AaIbTIUeBbCbDbEbFbGbHaPcIbJbKaPcLbMbNaGbY
cOaEcPbQbRbSbTbUbVbWbXbYaUcZpOMMAfDIGIT EIGHTfFIVEdOUReNINEeONEa ALTERNATE FORMsSEVENeIXdTHREEa ALTE
RNATE FORMtWOa ALTERNATE FORMsZEROkEXCLAMATION OHoFULL STOPjNUMBER EIGHTEENhLEVENgFIFTEENgOURTEENiNI
NETEENiSEVENTEENiIXTEENhTENcHIRTEENhWELVEnSMALL LETTER AaIbTIUeBbCbDbEbFbGbHaPcIbJbKaPcLbMbNaGbYcOaE
cPbQbRbSbTbUbVbWbXbYaUcZnYMBOL AIVAuIEVAL COMMAfEXCLAMATION MARKqQUESTION MARKsUM BLACK CIRCLElOLD W
HITE CIRCLErEIGHT POINTED BLACK STARsSPOKED ASTERISKvFIVE SPOKED ASTERISKtLATTENED LEFT PARENTHESIS
 ORNAMENTzRIGHT PARENTHESIS ORNAMENTzkOUR POINTED BLACK STARkPINWHEEL STARzbGREEK CROSSlLEFT CURLY B
RACKET ORNAMENTwPARENTHESIS ORNAMENTv-POINTING ANGLE BRACKET ORNAMENTzlMATHEMATICAL SPACEsRIGHT CURL
Y BRACKET ORNAMENTwPARENTHESIS ORNAMENTv-POINTING ANGLE BRACKET ORNAMENTzmSALTIREgHADEeIX POINTED BL
ACK STARsSPOKED ASTERISKsMALL WHITE CIRCLEsTHREE POINTED BLACK STARkPINWHEEL STARzcVERTICAL BARmWHIT
E CIRCLEgSQUARErETEI MAYEK AHANG KHUDAMlNJIdPUN IYEKjCHEIKHANcEIiDIGIT EIGHTfFIVEdOUReNINEeONEdSEVEN
eIXdTHREEeWOdZEROkLETTER ATIYAfBAbHAMeCHAbILeDDAbHAdHOUdILdEbGHOUdOKdHUKdIa LONSUMiJHAMdILdKHOUdOKa
 LONSUMkLAIa LONSUMkMITa LONSUMkNAa LONSUMiGOUa LONSUMkNAcYAdObPAa LONSUMiHAMeRAIdSAMcHAcSAdTHOUdILa
 LONSUMjTAbHAeUNcWAIdYANGkUM IYEKiSYLLABLE REPETITION MARKyVIRAMAfOWEL SIGN AAIbUcNAPdUcCHEINAPhIIbN
APeNUNGeONAPeSOUNAPgUNAPdUcVISARGAhYENAPqWORD REPETITION MARKzgLONcTING FACEkMOcNDE KIKAKUI COMBININ
G NUMBER HUNDRED THOUSANDSkSiMILLIONSiTEENSdN THOUSANDSkSdHOUSANDSzbDIGIT EIGHTfFIVEdOUReNINEeONEdSE
VENeIXdTHREEeWOjSYLLABLE M001 KIe2 KAe3 KUe4 WIe5 WAe6 WUe7 MINf8 MANf9 MUNg10 BIe1 BAe2 BUe3 Id4 Ad
5 Ud6 DIe7 DAe8 DUe9 SIf20 SAe1 SUe2 TIe3 TAe4 TUe5 LIe6 LAe7 LUe8 JIe9 JAf30 JUe1 YIe2 YAe3 YUe4 FI
e5 FAe6 FUe7 NINf8 NANf9 NUNg40 HEEf1 HAe2 HOOf3 NGGAg4 KPEEg5 WOe6 HUANg7 MBEEg8 KOe9 WVAg50 PUe1 P
Ee2 HENf3 HINf4 LOOf5 TEe6 GBAf7 NGONg8 NYANg9 MENg60 NYONg1 WVIf2 MBAf3 JOe4 NDOf5 KEEf6 POe7 NDOOg
8 PIe9 TOf70 GBOf1 GBOOg2 MBEf3 LEe4 KPUf5 FEe6 KOOf7 VOe8 FEEf9 SOf80 YEe1 PEEf2 NGGUg3 HEEIg4 LEEf
5 VEe6 LONG NGGEl7 HUNf8 FOe9 DEEg90 NGGIg1 TEEf2 KPAf3 GBEEg4 MONf5 KEe6 HEe7 BEe8 NYENg9 PAg100 Ed
1 FANf2 POOf3 BOOf4 TOOf5 LONG MBOOl6 LONG NGGOOm7 GBEf8 KPEf9 YEEg10 LONG LEj1 GAe2 KPOOg3 JEe4 WOO
f5 NGGEEh6 SEe7 NENf8 WEe9 NDEg20 NGGOg1 YOe2 MBUf3 NDIf4 GBIf5 NDUf6 WEEf7 NGGUAh8 HOOUg9 NDAg30 HA
Nf1 INe2 KPIf3 FOOf4 NJOOg5 INe6 SOOf7 EIe8 BOe9 WVEg40 HOe1 YOOf2 LONG MBOk3 WEIf4 VOOf5 MBIf6 NGGE
g7 Od8 GBUf9 NJEEh50 BEEf1 VUe2 NJAf3 LOe4 MUANg5 GIe6 NGGOOh7 JEEf8 KPOf9 NGGAAi60 JOOf1 LONG MBEk2
 SEEf3 EEe4 NYINg5 OOe6 GUEIg7 GUANg8 GUe9 NONg70 NYUNg1 RAe2 MBOOg3 VEEf4 MBOf5 LONG JOj6 HIe7 NGUA
Nh8 ENe9 KUAg80 DOOf1 DOe2 VIe3 LONG NGGOl4 NGENg5 VAe6 HUe7 MBUUg8 MBEEg9 MUENh90 GEEf1 NDEEg2 NJUf
3 HONf4 WUIf5 ANe6 SIAf7 FUAzdORAH WITH NINE BRANCHESxS SYMBOLjRCURYeOITIC CURSIVE FRACTION EIGHT TW
ELFTHSnLEVEN TWELFTHSpFIVE TWELFTHSmOUR TWELFTHSnNINE TWELFTHSnONE HALFeTWELFTHlSEVEN TWELFTHSnIX TW
ELFTHSmTEN TWELFTHSlHREE TWELFTHSnWO TWELFTHSvLETTER AaRCHAIC SAkBAcDAcEbHHAdIbKAbHAdLAcMAcNAbEcObPA
cQAcRAcSAbEcTAbEbOcWAcYAiOGOGRAM IMNdRMTmNUMBER EIGHTa HUNDREDa THOUSANDqTHOUSANDjY THOUSANDpFIFTYa
 THOUSANDmVEa HUNDREDa THOUSANDqTHOUSANDmORTYa THOUSANDmURa HUNDREDa THOUSANDqTHOUSANDnNINEa HUNDRED
a THOUSANDqTHOUSANDjTY THOUSANDpONEa HUNDREDa THOUSANDqTHOUSANDmSEVENa HUNDREDa THOUSANDqTHOUSANDjTY
a THOUSANDpIXa HUNDREDa THOUSANDqTHOUSANDjTYa THOUSANDoTENa THOUSANDlHIRTYa THOUSANDnREEa HUNDREDa T
HOUSANDqTHOUSANDnWENTYa THOUSANDnOa HUNDREDa THOUSANDqTHOUSANDzcHIEROGLYPHIC LETTER AbBAa-2eDAcEbHHA
dIbKAbHAdLAcMAcNAa-2dEa-2eObPAcQAcRAa-2eSAa-2dEcTAa-2dEa-2dOcWAcYAjSYMBOL VIDJa-2zhPERSONhSSAGE WAIT
INGnTRICAL BREVEfLONG OVER SHORTfTWO SHORTSuPENTASEMEjSHORT OVER LONGpTETRASEMEiRISEMEgWO SHORTS JOI
NEDgOVER LONGzOeIAO LETTER AHbRCHAIC MAcNAbGAdZZAlBAbRIdDAbDAcLHAbYAeZAbHAcYIcZAeFAcGAbHAbHAeHAbHAdK
AcLAbHAbYAdYAdMAbHAdNAaSALIZATIONlGAbHAdHAcNAbHAdYAbHAePAbLAdQAbGAdREFORMED TONE-1b2b4b5b6b8fSHAmTEd
SAbHAcSAcYIdTAbEbLHAbYAeONE-2b3b4b5b6b7b8fSAbEbHAcSAdTAdVAbFAdWAcXAcYI DZHAeKAcNNAdPAcTAbSAbHAdTAgZA
bHAcSAbHAdZAbSAbYAdYAlSIGN ASPIRATIONkCONSONANT MODIFIER BARwREFORMED ASPIRATIONkVOICINGvTONE ABOVEf
BELOWfRIGHTfTOP RIGHToVOWEL SIGN AaAbEaEcHHcIbNaGcUcEaAbIbNaGcRaRdIaAaNaGdEbGbIbNGcOaNGdUcNaGcOaERbY
cGbObUcROUNDED ERaRlUaAaNaGdEIcIbNGcOGcUcVWcWaOcYaIbUIrCR DASH SYMBOLlON US SYMBOLnO SIGNfBEcPHONEfS
COPEiDDLE DOTdTHIRD WHITE RIGHT POINTING INDEXzlLINE HORIZONTAL ELLIPSISzLITARY HELMETgMEDALlKY WAYg
L SIGNhNIBUSdDISCeMIZEfUS SIGNa IN TRIANGLElWITH COMMA ABOVElDOT BELOWjFALLING DOTSmRISING DOTSvTILD
Eg-OR-PLUS SIGNpYcRRORa BALLkMSPdOBILE PHONEa OFFdWITH RIGHTWARDS ARROW AT LEFTzpDELScRN PENTATHLONo
I ABBREVIATION SIGNrDANDAeIGIT EIGHTfFIVEdOUReNINEeONEdSEVENeIXdTHREEeWOdZEROjOUBLE DANDAmLETTER AaA
bIbUcBAbHAdCAbHAdDAbDAbHAdHAdEbGAbHAdHAcIaIcJAbHAdKAbHAdLAbLAdMAcNAbGAcNAcYAdObPAbHAdRAcSAbHAcSAdTAb
HAcTAbHAeUaUcVAbOCALIC LaLcRaRkYAjSIGN ANUSVARAhRDHACANDRAlHUVAeVIRAMAeSARGAmVOWEL SIGN AAbIbUcEbIaI
cObUaUcVOCALIC LaLcRaRwFIER BREVE WITH INVERTED BREVEzLETTER ACUTE ACCENTlLVEOLAR CLICKnPOSTROPHEkBE
GIN HIGH TONEjLOW TONEnILABIAL CLICKoCAPITAL AaEcBaARRED BiCbDbEbFbGbHa WITH STROKEnIbJbKbLbMbNbOaUc
PbQbRaEVERSED EbNkTbUbVbWiENTRED LEFT HALF RINGoRIGHT HALF RINGwHINESE TONE YANG PINGeQUcRUcSHANGjIN
 PINGeQUcRUcSHANGvIRCUMFLEX ACCENTqOLONeROSS ACCENTlYRILLIC ENcHARD SIGNjSOFT SIGNsDENTAL CLICKlOT H
ORIZONTAL BARoSLASHfVERTICAL BARoUBLE APOSTROPHEkPRIMEkWN ARROWHEADjTACKjEND HIGH TONEjLOW TONElXTRA
-HIGH DOTTED LEFT-STEM TONE BARsTONE BARpLEFT-STEM TONE BARsTONE BARnLOW DOTTED LEFT-STEM TONE BARsT
ONE BARpLEFT-STEM TONE BARsTONE BARsGEORGIAN NARlLOTTAL STOPa WITH STROKExRAVE ACCENTmHALF TRIANGULA
R COLONuIGH DOTTED LEFT-STEM TONE BARsTONE BARpLEFT-STEM TONE BARsTONE BARnLATERAL CLICKmEFT ARROWHE
ADjHALF RINGjTACKiOW ACUTE ACCENTmCIRCUMFLEX ACCENTrDOTTED LEFT-STEM TONE BARsTONE BARnWN ARROWHEADo
GRAVE ACCENTmINVERTED EXCLAMATION MARKzLEFT ARROWaHEADk-STEM TONE BARsMACRONgRIGHT ARROWHEADnNGeTILD
EeONE BARiUP ARROWHEADmVERTICAL LINEoER RIGHT CORNER ANGLEyMACRONfID DOTTED LEFT-STEM TONE BARsTONE
 BARpLEFT-STEM TONE BARsTONE BARjDLE DOUBLE ACUTE ACCENTmGRAVE ACCENTtGRAVE ACCENTrNUS SIGNkOPEN SHE
LFkPLUS SIGNiRIMEfRAISED COLONfDOWN ARROWkEXCLAMATION MARKqINVERTED EXCLAMATION MARKzUP ARROWoETROFL
EX CLICK WITH RETROFLEX HOOKziVERSED COMMAfGLOTTAL STOPa WITH STROKEzhHOTIC HOOKkIGHT ARROWHEADjHALF
 RINGjTACKkSHELFdORT EQUALS SIGNqMALL AaEbINcLPHAfBa WITH HOOKkARRED OhETAdOTTOM HALF OnCa WITH CURL
kAPITAL AAcBbGa WITH HOOKlHbIa WITH STROKEmNVERTED RkLa WITH BELTlNbOEcRbUbYiHIcLOSED OMEGAfREVERSED
 OPEN EwDa WITH HOOKa AND TAILnTAILkELTAdZH DIGRAPHlOTLESS J WITH STROKEa AND HOOKzeZ DIGRAPHa WITH
 CURLeRETROFLEX HOOKzfEaNGcSHcTHcZHdFaENG DIGRAPHmGa WITH HOOKkAMMAeREEK GAMMAfPHIjHa WITH HOOKeSTRO
KEmENGa WITH HOOKoI WITH STROKEmOTAeJa WITH CROSSED-TAILtKbLa WITH BELTeINVERTED LAZY SpMIDDLE TILDE
mPALATAL HOOKmRETROFLEX HOOKa AND BELTzeEZHa WITH RETROFLEX HOOKxIGATURE OEkS DIGRAPHjZ DIGRAPHkMa W
ITH HOOKlN WITH LEFT HOOKjRETROFLEX HOOKvOa WITH STROKEmPEN EbOgPaHIdQbRa WITH FISHHOOKiTAILkAMS HOR
NiEVERSED EbGLOTTAL STOPmOPEN EpSa WITH CURLeHOOKkCHWAdRIPT GhIDEWAYS UkTa WITH PALATAL HOOKmRETROFL
EX HOOKuC DIGRAPH WITH CURLtESH DIGRAPHlHETAeOP HALF OjS DIGRAPHa WITH RETROFLEX HOOKzeURNED AaEbLPH
AfHbIbMa WITH LONG LEGpOPEN EgRa WITH HOOKeLONG LEGa AND RETROFLEX HOOKzjVbWbYa WITH BELTsUa BARdWIT
H LEFT HOOKpPSILONhVa WITH HOOKeRIGHT HOOKrWbXbYbZa WITH CURLeRETROFLEX HOOKzbTRESS AND HIGH TONEjLO
W TONEsUPERSCRIPT HALF TRIANGULAR COLONvTRIANGULAR COLONzdTRIANGULAR COLONpURNED COMMAmUNASPIRATEDkP
 ARROWHEADjTACKgScVERTICAL LINEmOICINGhYANG DEPARTING TONE MARKxIN DEPARTING TONE MARKzlULO TWO SUMm
NEY BAGdWITH WINGSl-MOUTH FACEnGOLIAN BIRGAa WITH DOUBLE ORNAMENTpORNAMENTtCOLONdMMAfDIGIT EIGHTfFIV
EdOUReNINEeONEdSEVENeIXdTHREEeWOdZEROjOUBLE BIRGA WITH ORNAMENTzbELLIPSISiFOUR DOTSiREE VARIATION SE
LECTOR FOUReONEdTHREEeWOzbULL STOPjINVERTED BIRGAa WITH DOUBLE ORNAMENTzkLETTER AaLI GALI AaHbNUSVAR
A ONEmBALUDAgCAcDAaGALGAfMARUfDAdHALF UbYAhIaNVERTED UBADAMAqKAcNGAcNAdPAbHAdSSAdTAbHREE BALUDAlTAbH
AeUBADAMAhVISARGA ONElZAbHAlNGdBAcCHAa WITH TWO DOTSpIdDAcEaEcFAcGAcHAAdIbJAcKAbHAdLAbHAdMAaNCHU ALI
 GALI BHAdCAbYAdDDHAdHAdGHAdJHAdLHAdNGAdSSAdTAbTAdZAbHAmFAcIbKAcRAcZHAkNAcOaEcPAcQAcRAcSAbHAcIBE ANG
dCHAdDAcEbFAcGAaAdHAaAdIaYcJAcKAcPAcRAAdSHAdTAbSAdUaEcZAbHAiTAbODO ALI GALI TAcZHAlNGdBAcCHAdDAbZAdE
bGAaAdHAAdIbJAbIAdKAcLONG VOWEL SIGNpMAcNIAdOaEcPAcQAcTAbSAdUaEcWAcYAgSAdUaEcWAcYAcZAbHIcRAkMANCHU C
OMMAfFULL STOPqNIRUGUgROTATED BIRGAa WITH DOUBLE ORNAMENTpORNAMENTzcSIBE SYLLABLE BOUNDARY MARKERzdW
IRL BIRGAa WITH DOUBLE ORNAMENTpORNAMENTzTODO SOFT HYPHENpRIPLE BIRGA WITH ORNAMENTzURNED SWIRL BIRG
A WITH DOUBLE ORNAMENTzoVOWEL SEPARATORwKEYa FACEiOGRAM FOR EARTHfYANGdINmRAILeSTABLE SYMBOLpOD BUBB
LEiN CAKEeVIEWING CEREMONYtSQUEbITOgTHER CHRISTMASnOR BOATeSCOOTERiIZED WHEELCHAIRpWAYgUNT FUJIfAINa
 BICYCLISTjCABLEWAYiRAILWAYnSEa FACEeTRAPhTHdVIE CAMERAkYAIeRO DANDAeIGIT EIGHTfFIVEdOUReNINEeONEdSE
VENeIXdTHREEeWOdZEROjOUBLE DANDAmLETTER AbBAcCHUdDAaIdEaAcHAIbOdKEAAEeHAIdOcLAaNdMAEMdIMdNGIcINdOaLb
OcPAbHIdRIbOcSHIdTAbEKcHEAeWAcYOmUCH GREATER-THANmLESS-THANmLTANI LETTER AbBAbHAdCAbHAdDAbDAbDAcHAdH
AdEbGAbHAdHAcIbJAbJAdKAbHAdLAcMAcNAbNAcYAdPAbHAdRAbHAcRAdSAcTAbHAcTAbHAeUbVAcYAjSECTION MARKqIMAPdPL
E MUSICAL NOTESpICATION SIGNa IN DOUBLE CIRCLEnLEFT HALF CIRCLEqRIGHT HALF CIRCLErTRIANGLElWITH DOT
 ABOVEjUNDERBARsXlSETa MULTIPLICATIONoUNIONmSHROOMfIC FLAT SIGNjNATURAL SIGNmSHARP SIGNlAL KEYBOARDa
 WITH JACKStNOTEeSCOREeYMBOL ARPEGGIATO DOWNeUPnBEGIN BEAMePHRASEgSLUReTIEiRACEbKETfEATH MARKiVEbISa
 RESTlC CLEFfAESURAgIRCLE X NOTEHEADqLIMACUSfVISeUSTER NOTEHEAD BLACKfWHITEvODAcMBINING ACCENTa-STAC
CATOoUGMENTATION DOTqBENDeDOITcUBLE TONGUElWN BOWiFLAG-1b2b3b4b5eIPeHARMONICiLOUREfMARCATOa-STACCATO
qRIPdSMEAReNAP PIZZICATOnPRECHGESANG STEMqTACCATISSIMOgOgEMeTENUTOfREMOLO-1b2b3hIPLE TONGUEnUP BOWnM
ON TIMEkRESCENDOhOIXeUT TIMEiDA CAPOfL SEGNOhMPa ALLgSHED BARLINEnECRESCENDOjGREE SLASHlOUBLE BARLIN
EhFLATeSHARPlRUM CLEF-1b2lEIGHTH NOTEeRESTkND BEAMeOF STIMMEjPHRASEgSLUReTIEhF CLEFa OTTAVA ALTAeBAS
SAsERMATAa BELOWmINAL BARLINEkGERED TREMOLO-1b2b3qVE-LINE STAFFoLAT DOWNeUPgORTEdUR-LINE STAFFkSTRIN
G FRETBOARDuUSA BLACKfWHITEkG CLEFa OTTAVA ALTAeBASSAsLISSANDO DOWNeUPlRACE NOTE NO SLASHiSLASHoEGOR
IAN C CLEFgF CLEFqHALF NOTEePEDAL MARKkRESThUPTSTIMMElINVERTED TURNnKIEVAN C CLEFgEIGHTH NOTE STEM D
OWNeUPsND OF PIECEmFINAL NOTEjLAT SIGNjHALF NOTEjQUARTER NOTE STEM DOWNeUPuRECITATIVE MARKpWHOLE NOT
EqORONfLEFT REPEAT SIGNpONGAa IMPERFECTA RESTpPERFECTA RESTtMAXIMAfEZZOeINIMAa BLACKfRESTkOON NOTEHE
AD BLACKfWHITEsULTI RESTfPLE MEASURE RESTvNATURAL DOWNeUPjEBENSTIMMEkOTEHEAD BLACKnULL NOTEHEADnONE
 HUNDRED TWENTY-EIGHTH NOTEeRESTzc-LINE STAFFnRNAMENT STROKE-1a0b1c2b3b4b5b6b7b8b9qTTAVA ALTAeBASSAm
PARENTHESIS NOTEHEADtEDAL MARKeUP MARKlS SUBPUNCTISnIANOeLUS NOTEHEADmODATUSfRRECTUSa FLEXUSqQUARTER
 NOTEeRESTeTONE FLATeSHARPqINDICESIMA ALTAeBASSAsREPEAT DOTSfED FIGURE-1b2b3pVERSE FINAL BARLINEuIGH
T REPEAT SIGNpNFORZANDOlSCANDICUSa FLEXUSpEGNOdMIBREVIS BLACKfRESTeWHITEmMINIMA BLACKfRESTeWHITEpHAR
P DOWNeUPgORT BARLINEmINGLE BARLINEmX-LINE STAFFkSTRING FRETBOARDrTEENTH NOTEeRESTkY-FOURTH NOTEeRES
TqORIdQUARE BbNOTEHEAD BLACKfWHITEuUBITOgTEMPUS IMPERFECTUM CUM PROLATIONE IMPERFECTAa DIMINUTION-1b
2b3xPERFECTAzkPERFECTUM CUM PROLATIONE IMPERFECTAkPERFECTAa DIMINUTION-1zzcHIRTY-SECOND NOTEeRESTqRE
E-LINE STAFFpORCULUSa RESUPINUSrRaIANGLE NOTEHEAD DOWN BLACKfWHITEkLEFT BLACKfWHITEkRIGHT BLACKfWHIT
ElUP BLACKfRIGHT BLACKfWHITElWHITEs-ROUND NOTEHEAD DOWN BLACKfWHITEziURNa SLASHfUPgWO-LINE STAFFoVIR
GAeOID NOTEHEADnWHOLE NOTEeRESTjITH FINGERNAILSqX NOTEHEADkZpVScWbYANMAR CONSONANT SIGN MEDIAL HAcRA
cWAcYAiON MEDIAL LAcMAcNAnSHAN MEDIAL WAzeDIGIT EIGHTfFIVEdOUReNINEeONEdSEVENeIXdTHREEeWOdZEROkLETTE
R AaITON RAhUcBAbHAdCAbHAdDAbDAbHAdHAdEaASTERN PWO KAREN GHWAeNNAdYWAvGAbHAcREAT SAiHAcIaIcJAbHAdKAb
HAaMTI CAbHAdDDAbHAdHAdFAcGAcHAbHAdJAbHAdLLAdNAbYAdRAcSAcTTAbHAeXAcZAjLAbLAdMAbON BBAbEdEbJHAdNGAhNA
bGAcNAbYAdYAdObPAbHAdRAbUMAI PALAUNG FAqSAbGAW KAREN SHAnHAaN AbBAbHAdCAbHAdDAcFAcGAbHAdHAcJHAdKAbHA
dNAbNAcYAdPHAdTHAdZAfWE PALAUNG CHAdSHApSAdTAaI LAING BAbHAdDAbDAbHAdHAdFAcGAbHAdJAbHAdLLAdNNAcYAmHA
cTAbHAeUaUcVOCALIC LaLcRaRkWAbESTERN PWO KAREN PWAdTHAvYAiOGOGRAM KHAMTI HMcOAYdQNsMODIFIER LETTER K
HAMTI REDUPLICATIONuSHAN REDUPLICATIONzjSHAN DIGIT EIGHTfFIVEdOUReNINEeONEdSEVENeIXdTHREEeWOdZEROoIG
N ANUSVARAhSATeDOT BELOWjKHAMTI TONE-1b3nLITTLE SECTIONoPAO KAREN TONEoRUMAI PALAUNG TONE-5uSECTIONg
HAN COUNCIL EMPHATIC TONEnTONE-2b3oSAWdTONE-2b3b5b6lTAI LAING TONE-2b5qVIRAMAeSARGAhWESTERN PWO KARE
N TONE-1b2b3b4b5zdYMBOL AFOREMENTIONEDnITON EXCLAMATIONlONEdTWOjCOMPLETEDjGENITIVEiLOCATIVEiSHAN EXC
LAMATIONlONEpTAI LAING DIGIT EIGHTfFIVEdOUReNINEeONEdSEVENeIXdTHREEeWOdZEROtONE MARK SGAW KAREN HATH
IfKE PHOzcVOWEL SIGN AAbIaTON AaIiEa ABOVEhGEBA KAREN ImIaIcKAYAH EEcOEcUhMON IIcOfSGAW KAREN EUmHAN
 AAcEa ABOVEhFINAL YmTALL AAhUaUcVOCALIC LaLcRaRkWESTERN PWO KAREN EUcUEzoN-ARY CIRCLED DOT OPERATOR
mPLUS OPERATORnTIMES OPERATORvOPRODUCTjINTERSECTIONmLOGICAL ANDdORkPRODUCThSQUARE INTERSECTION OPERA
TORvUNION OPERATORuUMMATIONjTIMES OPERATORoUNIONa OPERATOR WITH DOTdPLUSyWHITE VERTICAL BARxABATAEAN
 CRUCIFORM NUMBER FOURvLETTER ALEPHeYINeBETHeDALETHgFINAL ALEPHfBETHeHEcKAPHeLAMEDHgMEMdNUNdSHINeYOD
HkGIMELfHEaTHeKAPHeLAMEDHgMEMdNUNdPEcQOPHeRESHeSADHEdMEKHfHINeTAWcETHeWAWdYODHeZAYINmNUMBER FIVEdOUR
eONEa HUNDREDlTENcHREEeWENTYeOrLAdIL POLISHiRA SIGNiKbME BADGEiNDaINAGARI HEADSTROKEkLETTER AaAbIbUc
BAbHAdCAbHAdDAbDAbHAdHAdEbGAbHAdHAcIaIcJAbHAdKAbHAdLAbLAdMAcNAbGAcNAcYAdObPAbHAdRAbRAdSAbHAcSAdTAbHA
cTAbHAeUaUcVAbOCALIC RaRkYAjSIGN ANUSVARAhVAGRAHAiSIDDHAMhVIRAMAeSARGAmVOWEL SIGN AAbIbUcEbIaIcObPRI
SHTHAMATRA EpUaUcVOCALIC RaRzgRROW NO-BREAK SPACEtTIONAL DIGIT SHAPESmPARKlUSEATED FACEmZAR AMULETlB
HbSPdECKTIEfGATED DOUBLE VERTICAL BAR DOUBLE RIGHT TURNSTILEzuIVE ACKNOWLEDGElCIRCLED DIGIT ZEROkLAT
IN CAPITAL LETTER AbBbCbDbEbFbGbHbIbJbKbLbMbNbObPbQbRbSbTbUbVbWbXbYbZwNUMBER EIGHTEENhLEVENgFIFTEENg
OURTEENiNINETEENiSEVENTEENiIXTEENhTHIRTEENhWELVEdNTYnSQUAREgTRIANGLEqDIAGONAL CROSSfDIAMONDhMIDDLE R
IGHT TO LOWER CENTREzmSQUARED ABcCROSS MARKkICcLATIN CAPITAL LETTER AbBbCbDbEbFbGbHbIbJbKbLbMbNbObPb
QbRbSbTbUbVbWbXbYbZwPAcQUESTION MARKnSAcWCrITHER A SUBSET OF NOR EQUAL TOuPERSET OF NOR EQUAL TOzPPR
OXIMATELY NOR ACTUALLY EQUAL TOzkGREATER-THAN NOR EQUAL TOfIVALENT TOnLESS-THANzbLESS-THAN NOR EQUAL
 TOfIVALENT TOnGREATER-THANzhLbPTUNEa FORM TWOoRD FACEhSSUSdT WITH EGGSkING DOLLSlUTERcRAL CHESS BIS
HOPa ROTATED NINETY DEGREESoTWO HUNDRED SEVENTY DEGREESzrEQUIHOPPERa ROTATED NINETY DEGREESziKINGa R
OTATED NINETY DEGREESoTWO HUNDRED SEVENTY DEGREESzoNIGHTa ROTATED FORTY-FIVE DEGREESsNINETY DEGREESo
ONE HUNDRED THIRTY-FIVE DEGREESzgTHREE HUNDRED FIFTEEN DEGREESzdWO HUNDRED SEVENTY DEGREESpTWENTY-FI
VE DEGREESzvPAWNa ROTATED NINETY DEGREESoTWO HUNDRED SEVENTY DEGREESzpQUEENa ROTATED NINETY DEGREESo
TWO HUNDRED SEVENTY DEGREESzqROOKa ROTATED NINETY DEGREESoTWO HUNDRED SEVENTY DEGREESzpTURNED BISHOP
gKINGdNIGHTgPAWNeQUEENfROOKrFACEkW LINEeMOON SYMBOLgWITH FACEoSHEQEL SIGNlTAI LUE DIGIT EIGHTfFIVEdO
UReNINEeONEdSEVENeIXdTHREEeWOdZEROkLETTER FINAL BbDbKbMbNaGcVhHIGH BAcDAcFAcHAcKAbVAdLAcMAcNAbGAdPAb
HAdQAcSAbUAdTAbHAcSAdVAcXAbVAdYAhLOW BAcDAcFAcHAcKAbVAdLAcMAcNAbGAdPAbHAdQAcSAbUAdTAbHAcSAdVAcXAbVAd
YAnSIGN LAEaVjTHAM DIGIT ONEnONE MARK-1b2lVOWEL SIGN AAaYcEbYcEbIIbYcOaAaYcYcUaEaYcUbYcVOWEL SHORTEN
ERzkA ABBREVIATION SIGNrCOMMAfDANDAeIGIT EIGHTfFIVEdOUReNINEeONEdSEVENeIXdTHREEeWOdZEROjOUBLE COMMAf
DANDAmGAP FILLERkINSERTION SIGNoLETTER AaAbIbUcBAbHAdCAbHAdDAbDAbHAdHAdEbGAbHAdHAcIaIcJAbHAdKAbHAdLA
bHAdMAbHAdNAbGAbHAdHAcNAcYAbHAeObPAbHAdRAbHAdSAbHAcSAdTAbHAcTAbHAeUaUcVEDIC ANUSVARAnOCALIC LaLcRaRk
WAcYAjOMcPLACEHOLDER MARKqSANDHI MARKkIDDHIeGN ANUSVARAhVAGRAHAiCANDRABINDUlFINAL ANUSVARAoJIHVAMULI
YAlNUKTAfUPADHMANIYAlVIRAMAeSARGAmVOWEL SIGN AAbIbUcEbIaIcObUaUcVOCALIC LaLcRaRxLINE LEFTeRIGHTkSPAP
ERhXT LINEePAGEiIGHT WITH STARSoNJAeKO COMBINING DOUBLE DOT ABOVEqLONG DESCENDING TONEpHIGH TONEjLOW
 TONEiRISING TONEqNASALIZATION MARKrSHORT HIGH TONEjLOW TONEiRISING TONEyMAfDANTAYALANjIGIT EIGHTfFI
VEdOUReNINEeONEdSEVENeIXdTHREEeWOdZEROjOROME SIGNlEXCLAMATION MARKqHIGH TONE APOSTROPHEuLAJANYALANjE
TTER AbBAcCHAdDAaGBASINNAkEaEcFAcGBAdHAcIbJAbONA CHAdJAcRAhKAcLAcMAcNaAa WOLOSOiYAa WOLOSOkOaOcPAcRA
bRAdSAcTAcUbWAcYAiOW TONE APOSTROPHEtSYMBOL GBAKURUNENkOO DENNENqTAMAN SIGNnLbNBSPeO BICYCLEShREAK H
EREkENTRYa SIGNkMOBILE PHONESnONE UNDER EIGHTEEN SYMBOLzPEDESTRIANSkIRACYgSMOKING SYMBOLp-BREAK SPAC
EmMINAL DIGIT SHAPESqSMA SIGNkN-BREAKING HYPHENpPOTABLE WATER SYMBOLvFORKINGiRaDIC MARK SIGNnMAL SUB
GROUP OFa OR EQUAL TOzcTH EAST AND SOUTH WEST ARROWtRROWa AND SOUTH EAST ARROWuCROSSING NORTH WEST A
RROWqSOUTH EAST ARROWzWITH HOOKpBLACK ARROWlDOUBLE ARROWmPOINTING BUDdLEAFeVINE LEAFsSANS-SERIF ARRO
WqTRIANGLE-HEADED ARROWa TO BARzdWHITE ARROWqINDIC FRACTION ONE EIGHTHgHALFeQUARTERhSIXTEENTHnTHREE
 QUARTERSiSIXTEENTHSzPLACEHOLDER MARKqQUANTITY MARKkRTER MARKmRUPEE MARKqWEST AND SOUTH EAST ARROWtR
ROWa AND NORTH EAST ARROWuCROSSING NORTH EAST ARROWzTO CORNERgLONG BARlWITH HOOKpBLACK ARROWlDOUBLE
 ARROWmPOINTING BUDdLEAFeVINE LEAFsSANS-SERIF ARROWqTRIANGLE-HEADED ARROWa TO BARzdWHITE ARROWrEAST-
POINTING AIRPLANEzSEcT A SUBSET OFhPERSET OFmLMOST EQUAL TOoN ELEMENT OFmSYMPTOTICALLY EQUAL TOxCHEC
K MARKkEQUAL TOfIVALENT TOnGREATER-THANmIDENTICAL TOmLESS-THANjNORMAL SUBGROUP OFa OR EQUAL TOzfPARA
LLEL TOlSIGNdQUARE IMAGE OF OR EQUAL TOuORIGINAL OF OR EQUAL TOzfTILDEeRUEfCHED LEFT SEMICIRCLE WITH
 THREE DOTSzfOWER RIGHT-SHADOWED WHITE RIGHTWARDS ARROWzsRIGHT SEMICIRCLE WITH THREE DOTSzhUPPER RIG
HT-SHADOWED WHITE RIGHTWARDS ARROWzxEa PADbGEfBOOKa WITH DECORATIVE COVERzeULaLcMBER EIGHTEEN FULL S
TOPrLEVEN FULL STOPqFIFTEEN FULL STOPqOURTEEN FULL STOPsNINETEEN FULL STOPsSEVENTEEN FULL STOPsIGNcX
TEEN FULL STOPrTEN FULL STOPmHIRTEEN FULL STOPrWELVE FULL STOPnNTY FULL STOPuERO SIGNjSHU CHARACTER-
1B170b1b2b3b4b5b6b7b8b9bAbBbCbDbEbFc80b1b2b3b4b5b6b7b8b9bAbBbCbDbEbFc90b1b2b3b4b5b6b7b8b9bAbBbCbDbEb
FcA0b1b2b3b4b5b6b7b8b9bAbBbCbDbEbFcB0b1b2b3b4b5b6b7b8b9bAbBbCbDbEbFcC0b1b2b3b4b5b6b7b8b9bAbBbCbDbEbF
cD0b1b2b3b4b5b6b7b8b9bAbBbCbDbEbFcE0b1b2b3b4b5b6b7b8b9bAbBbCbDbEbFcF0b1b2b3b4b5b6b7b8b9bAbBbCbDbEbFd
200b1b2b3b4b5b6b7b8b9bAbBbCbDbEbFc10b1b2b3b4b5b6b7b8b9bAbBbCbDbEbFc20b1b2b3b4b5b6b7b8b9bAbBbCbDbEbFc
30b1b2b3b4b5b6b7b8b9bAbBbCbDbEbFc40b1b2b3b4b5b6b7b8b9bAbBbCbDbEbFc50b1b2b3b4b5b6b7b8b9bAbBbCbDbEbFc6
0b1b2b3b4b5b6b7b8b9bAbBbCbDbEbFc70b1b2b3b4b5b6b7b8b9bAbBbCbDbEbFc80b1b2b3b4b5b6b7b8b9bAbBbCbDbEbFc90
b1b2b3b4b5b6b7b8b9bAbBbCbDbEbFcA0b1b2b3b4b5b6b7b8b9bAbBbCbDbEbFcB0b1b2b3b4b5b6b7b8b9bAbBbCbDbEbFcC0b
1b2b3b4b5b6b7b8b9bAbBbCbDbEbFcD0b1b2b3b4b5b6b7b8b9bAbBbCbDbEbFcE0b1b2b3b4b5b6b7b8b9bAbBbCbDbEbFcF0b1
b2b3b4b5b6b7b8b9bAbBpITERATION MARKsT AND BOLTlYIAKENG PUACHUE HMONG CIRCLED CAkDIGIT EIGHTfFIVEdOUR
eNINEeONEdSEVENeIXdTHREEeWOdZEROkLETTER AaAcCAcDAbLAdEaEcFAcGAcHAaHdIbKAcLAcMAbLAdNAbCAcKAcPAbLAdQAc
RAcTAbSAcXAdYAdOaOcPAbLAdQAcRAbRAdSAcTAbSAcXAdUbVAcWbXAbYAdYAcZAiOGOGRAM NYAJnSIGN FOR ANIMALgINVERT
EBRATEmLOCATIONiPERSONgTHINGjXW XWjYLLABLE LENGTHENERtTONE-BbDbGbJbMbSbVzeOBJECT REPLACEMENT CHARACT
ERzbLIQUE ANGLE OPENING DOWNeUPqHYPHENmSERVER EYE SYMBOLsCR AMOUNT OF CHECKpBELT BUCKLEkOW TIEgRANCH
 BANK IDENTIFICATIONzbCHAIReUSTOMER ACCOUNT NUMBERxDASHdOUBLE BACKSLASHqFORKeHOOKeINVERTED FORKpTAGO
NAL SIGNlOPUSgDENdFFICE BUILDINGoGHAM FEATHER MARKmLETTER AILMeBEITHfCEIRTeOLLeDAIReEABHADHfDHADHfMH
ANCHOLLlFEARNfGORTeIFINdODHADHhLUISeMUINeNGEADALgIONeONNcRcPEITHfRUISeSAILdTRAIFgTINNEfUATHdILLEANNh
RjREVERSED FEATHER MARKvSPACE MARKoONEKfHM SIGNhIL DRUMhK HAND SIGNlL CHIKI AHADeDIGIT EIGHTfFIVEdOU
ReNINEeONEdSEVENeIXdTHREEeWOdZEROkGAAHLAA TTUDDAAGqLETTER AAJbKbMbWcGbLbNGcTcEDDcNbPbRRdIHbNYcRbScLA
aAcEbIbObUcOBbHbTTcVcUCbDbNNcYjMU TTUDDAGi-GAAHLAA TTUDDAAGtPHAARKAAhUNCTUATION DOUBLE MUCAADnMUCAAD
sRELAAmD CHINESE HOOK MARKjITERATION MARKwHUNGARIAN CAPITAL LETTER AaAbKbMBcNDdCLOSE EhEaBbCaHbScDbE
bFbGaYcHbJbKbLaYcMaPcNaCbTa-SHAPED SIGNnYcPbRbSaZcTaYcVbZaSdIaIcNIKOLSBURG OEcUEnOaEEcOcRUDIMENTA OE
cUEmSHORT ERiUaNKcSbUrNUMBER FIFTYdVEeONEa HUNDREDhTHOUSANDmTENkSMALL LETTER AaAbKbMBcNDdCLOSE EhEaB
bCaHbScDbEbFbGaYcHbJbKbLaYcMaPcNaCbTa-SHAPED SIGNnYcPbRbSaZcTaYcVbZaSdIaIcNIKOLSBURG OEcUEnOaEEcOcRU
DIMENTA OEcUEmSHORT ERiUaNKcSbUzITALIC LETTER AbBEcCHEdDEcEaFbKScLbMbNbRaScSaHbSdHEcIaIcKAbEbHEcUcNO
RTHERN TSEmObPEbHEdSHEcOUTHERN TSEmTEbHEdUaUcVEcYEcZEjNUMERAL FIFTYdVEeONEdTENsKEYdNORTH ARABIAN LET
TER AINcLEFeBEHdDADbLdES-1b2b3eFEHdGEEMdHAINfHAHcEHdKAFcHAHeLAMdMEEMeNOONeQAFdREHdSADdTAHcEHcHALcEHe
WAWdYEHdZAHbINlNUMBER ONEdTENcWENTYzcPERMIC LETTER ANcBURdCHERYfDOIcZHOIdITAfEaFcGAIdHAcIaAbEcKOKEeL
EIdMENOEfNENOEfOaOcPEEIeREIdSHCHOOIfOOIeIIdTAIcSIUeUbVERcOOIeYAaTcERaIbUdRYcUcZATAdHOIpSIAN NUMBER H
UNDREDhONEdTENcWENTYeOkSIGN AaURAMAZDAAa-2cHAmBAaGAdUUMISHhCAcDAaHYAAUSHa-2kIbUcFAcGAbUcHAcIbJAbIcKA
bUcLAcMAbIbUcNAbUcPAcRAbUcSAbHAcSAdTAbHAcUcUbVAbIcXAbSHAAYATHIYAmYAcZAhWORD DIVIDERqONAL COMPUTERrSO
GDIAN FRACTION ONE HALFrLETTER ALEPHdTERNATE AYINnYINeBETHeFINAL ALEPHfBETHeHEcNUNa WITH VERTICAL TA
ILwSADHEa WITH VERTICAL TAILyTAWa WITH VERTICAL TAILzdGIMELfHEaTHeKAPHeLAMEDHgMEMdNUNdPEcRESH-AYIN-D
ALETHqSADHEdMEKHfHINeTAWdWAWdYODHeZAYINlIGATURE AYIN-DALETHuNUMBER FIVEdOUReONEa HUNDREDlTENcHIRTYeR
EEeWENTYeOqUTH ARABIAN LETTER ALEFdYNdBETHeDALETHfHADHEdLETHhFEcGHAYNeIMELfHEaTHeKAPHdHETHfLAMEDHgME
MdNUNdQOPHeRESHeSADHEdMEKHeTcHINeTAWcETHdHAWcETHfWAWdYODHeZAYNlNUMBER FIFTYfONEhERIC INDICATORzgTURK
IC LETTER ORKHON AaBbDbEBbDbGbKbLbNbRbSbTbYcGbLbNbQbRbSaHcTbYcBASHeECbLTcMbNCbGbTbYcPbSHcZcIaCbQcOaE
aKcPbQbTjYENISEI AaBbDbEaBbGbKbNaGcTbYcGbLbNGcQbRbSHcTbYcEaCbNCbTbYcSHcZcIaQcOEaKcQyUYGHUR COMBINING
 DOT ABOVEfBELOWjTWO DOTS ABOVEfBELOWyLETTER ALEPHfBETHeFINAL HETHkGIMEL-HETHkKAPHeLAMEDHfESHeMEMdNU
NdPEcRESHeSADHEdMEKHfHINeTAWdWAWdYODHeZAYINmPUNCTUATION BARdFOUR DOTSjTWO BARSeDOTSzdER ADULTfMANdWO
MANjIVEeM SYMBOLiN WITH EXCLAMATION MARK WITH LEFT RIGHT ARROW ABOVEzzCOMING AUTOMOBILEkBUSdFIRE ENG
INElPOLICE CARkTAXIlE BUTTON MOUSEmDOT LEADERgOVER TWO DOTS PUNCTUATIONzf-PIECE SWIMSUITqIONePEN BOO
KcXdCENTRE ASTERISKiBLACK STARkCROSSfTEARDROP-SPOKED ASTERISKzgFILE FOLDERkOLDERgHANDS SIGNkLOCKeMAI
LBOX WITH LOWERED FLAGmRAISED FLAGySUBSETePERSETj-CIRCUIT-OUTPUT H-TYPE SYMBOLnL-TYPE SYMBOLzdOUTLIN
ED RIGHTWARDS ARROWzcRATING SYSTEM COMMANDwHIUCHUShPOSITIONiTICAL DISCa ICONnON KEYjR WITH DOT INSID
EqANGE BOOKeHEARThUTANhIGINAL OFiYA AI LENGTH MARKnU LENGTH MARKoDIGIT EIGHTfFIVEdOUReNINEeONEdSEVEN
eIXdTHREEeWOdZEROkFRACTION ONE EIGHTHgHALFeQUARTERhSIXTEENTHnTHREE QUARTERSiSIXTEENTHSzISSHARgLETTER
 AaAbIbUcBAbHAdCAbHAdDAbDAbHAdHAdEbGAbHAdHAcIaIcJAbHAdKAbHAdLAbLAdMAcNAbGAcNAcYAdObPAbHAdRAbHAcRAdSA
bHAcSAdTAbHAcTAbHAeUaUcVAbOCALIC LaLcRaRkWAcYAbYAkSIGN ANUSVARAhVAGRAHAiCANDRABINDUlNUKTAfOVERLINEiV
IRAMAeSARGAmVOWEL SIGN AAbIbUcEbIaIcObUaUcVOCALIC LaLcRaRzNATE LEFT PARENTHESISqRIGHT PARENTHESISwTH
ODOX CROSSnSAGE CAPITAL LETTER AaHbIaNdBRAdCHAdDHAdEaHCHAdKAcPAcTAbSAeINdGHAdHAbYAdIbKAbHAcYAdLAcMAc
NAcOaINdPAcSAbHAdTAbSAbHAeUbWAcZAbHAsSMALL LETTER AaHbIaNdBRAdCHAdDHAdEaHCHAdKAcPAcTAbSAeINdGHAdHAbY
AdIbKAbHAcYAdLAcMAcNAcOaINdPAcSAbHAdTAbSAbHAeUbWAcZAbHAuCbMANYA DIGIT EIGHTfFIVEdOUReNINEeONEdSEVENe
IXdTHREEeWOdZEROkLETTER AaAbLEFeBAcCAYNeDEELdHAdEaEcFAcGAcHAcIbJAcKAAFdHAdLAANeMIINeNUUNeOaOcQAAFeRA
cSAbHIINfTAcUbWAWdXAcYAqTTERcOMAN SIYAQ ALTERNATE NUMBER EIGHTfFIVEdOURa HUNDREDmNINEeSEVENeIXa HUND
REDlTENa THOUSANDlHREEeWOa THOUSANDzeFRACTION ONE HALFeSIXTHsMARRATANiNUMBER EIGHTa HUNDREDhTHOUSAND
jYa THOUSANDpFIFTYa THOUSANDmVEa HUNDREDhTHOUSANDmORTYa THOUSANDmURa HUNDREDhTHOUSANDnNINEa HUNDREDh
THOUSANDjTYa THOUSANDpONEa HUNDREDhTHOUSANDmSEVENa HUNDREDhTHOUSANDjTYa THOUSANDpIXa HUNDREDhTHOUSAN
DjTYa THOUSANDoTENa THOUSANDlHIRTYa THOUSANDnREEa HUNDREDhTHOUSANDnWENTYa THOUSANDnOa HUNDREDhTHOUSA
NDzhUNCE SIGNiTBOX TRAYiLINED BLACK STARkGREEK CROSSlLATIN CROSSlWHITE STARsVERHEATED FACElLAPaPING
 BLACK SQUARESnWHITE AND BLACK SQUARESrSQUARESuINEhWLcXbYSTERgPACKAGEfDaDING CHARACTERpGEa FACING UP
jWITH CIRCLED TEXTlURLkRbScODAeHAWH HMONG CLAN SIGN FAJdHAMbWJeKHABdOOcWMdLAUJdISdMUASePHABeTHOJdSAB
cHEEJeWBeVAJcWJdXYOOJfYAJcEEGnONSONANT AUcCAUcHAUeHAUcLAUdNAUeLAUdMAUdNAUcCHAUeKAUdLAUdTHAUdSAUfPLHA
UfQHAUeRAUdVAUdXAUdYAUnDIGIT EIGHTfFIVEdOUReNINEeONEdSEVENeIXdTHREEeWOdZEROkMARK CIM HOMdKEScHAVeSOb
UAMeTAUMdUBmNUMBER HUNDRED MILLIONSjSiMILLIONSiTEN BILLIONSiTHOUSANDSkSdRILLIONSqSIGN AVcCIM CHEEMeU
AM TSHOOJlHAIS LUS NTOG NTOGsNRES TOSiPUB DAWBiTSOV ROGhXWVa CHWVnHLIcNUBeIB YAMgLOSdMEEJ SUABeTSEEB
jUSdNQIGdTUJeTAUcHIRD-STAGE HLIoXHEEJ CEEVlVOS FEEMeLUBdNRUAeSEEVeTHIABdOMdSHAB CEEBoXAUSdIABdYEEM F
AIBeNTXIVfRHOdTOVhOOeZWJ THAJnVOWEL KAABbVcBbIBbVcUBbVcVbWBbVdEBbEBbVcVcIABbVcBbVcOBbOBbVcVcUABbVcBb
VcWBbVuLLASdM BRANCHgDOWN HANDjTREEeUP HANDiS UP TOGETHERnYRENE LEFT-POINTING FLEURONtTTER ALEPHeYIN
eBETHeDALETHgFINAL NUNjGIMELfHEaTHeKAPHeLAMEDHgMEMdNUNdPEcQOPHeRESHeSADHEdMEKHfHINeTAWcETHeWAWdYODHe
ZAYINmNUMBER FIVEdOUReONEdTENcHREEeWENTYeOkRIGHT-POINTING FLEURONzfNCAKESfDA FACEiPERCLIPhRACHUTEfGR
APH SEPARATORkOScUS MARKmLLEL TOcWITH HORIZONTAL STROKErTILDE OPERATORzENTHESIZED DIGIT EIGHTfFIVEdO
UReNINEeONEdSEVENeIXdTHREEeWOjHANGUL CHIEUCHa AiIEUCa AbUhHIEUHa AhIEUNGa AhKHIEUKHa AiIYEOKa AiMIEU
Ma AhNIEUNa AhPHIEUPHa AiIEUPa AhRIEULa AhSIOSa AgTHIEUTHa AiIKEUTa ApIDEOGRAPH ALLIANCEiCALLdONGRAT
ULATIONoEARTHeIGHTeNTERPRISEkFESTIVALhINANCIALhREcVEdOUReHAVEeLABORfMETALeOONeNAMEdINEeONEdREACHdPRE
SENThSOURCEfTeSELFcVENeIXcOCIETYgPECIALgTOCKdUDYeUNbPERVISEjTENcHREEeWOdWATEReOODoKOREAN CHARACTER O
 HUdJEONwLATIN CAPITAL LETTER AbBbCbDbEbFbGbHbIbJbKbLbMbNbObPbQbRbSbTbUbVbWbXbYbZqSMALL LETTER AbBbC
bDbEbFbGbHbIbJbKbLbMbNbObPbQbRbSbTbUbVbWbXbYbZuNUMBER EIGHTEENhLEVENgFIFTEENgOURTEENiNINETEENiSEVENT
EENiIXTEENhTENcHIRTEENhWELVEdNTYyROTdT ALTERNATION MARKrIAL DIFFERENTIALmLINE BACKWARDiDOWNeFORWARDh
UPiLY-RECYCLED PAPER SYMBOLzcNERSHIP SIGNmY POPPERkSSED SYMBOLiNGER SHIPkIVE-PULL-DOWN-OUTPUT SYMBOL
sUP-OUTPUT SYMBOLzPORT CONTROLoU CIN HAU GLOTTAL STOPa FINALfVARIANTuLETTER AbBAcCAbHAdDAcEbFAbINAL
 KbLbMbNaGcPbTbWbYhGAcHAcIaAcKAbHAdLAcMAcNAbGAdObPAbHAdRAcSAcTAbHAdUaAcVAcZAiOW-FALLING TONEa FINALf
LONGa FINALzcMID-LEVEL TONEa FINALfLONG FINALzRISING TONEa FINALfLONGa FINALwSANDHI GLOTTAL STOPa FI
NALsTONEa FINALfLONGa FINALzhW PRINTSjDFbIcEACE SYMBOLiHbOCKeNUTSeRcDESTRIANiN OVER STAMPED ENVELOPE
wCILdGUINeSIVE FACEjTAGRAMhOPLE HUGGINGmR MILLE SIGNkSIGNeTEN THOUSAND SIGNsCENT SIGNjFORMING ARTSmM
ANENT PAPER SIGNrPENDICULARa WITH SrSEVERING FACEmON BOWING DEEPLYnCLIMBINGiDOING CARTWHEELpFROWNING
iIN LOTUS POSITIONoSTEAMY ROOMoRAISING BOTH HANDS IN CELEBRATIONziWITH BALLdLOND HAIRkCROWNfFOLDED H
ANDSmHEADSCARFjPOUTING FACEsAL COMPUTERnPECTIVEjSETA SIGNiO SIGNhTRI DISHjHAGS-PA DOUBLE HEAD MARKqL
ETTER AaLTERNATE YAlSPIRATED FAmBAcCAaNDRABINDUkHAdDAbDAcZAdEaEcFAcGAbGAdHAcIbJAcKAbHAdLAcMAcNAbGAcN
AcYAdObPAbHAdQAcRAcSAbHAcMALL AhTAbHAcSAbHAdTAbHAeUbVOICED HAeLESS SHAnWAcXAcYAcZAbHAkMARK DOUBLE SH
ADlSHADjSINGLE HEAD MARKpUBJOINED LETTER RAcWAcYArPERFIXED LETTER RAzbISTOS DISC SIGN ARROWfBEEaHIVE
gOOMERANGhWcULLS LEGjCAPTIVEfRPENTRY PLANEnTcHILDeLUBdOLUMNeMBaINING OBLIQUE STROKEyDOLIUMeVEeEAGLEf
FLUTEfGAUNTLEThRATERgHELMETfIDEdORNeLIDbLYeMANACLESgTTOCKhOX BACKhPAPYRUSgEDESTRIANjLANE TREEiUMED H
EADlRAMcOSETTEhSAWcHIELDdPdLINGeMALL AXEiTRAINERiTATTOOED HEADmIARAeUNNYfVINEeWAVY BANDiOMANwILIPPIN
E DOUBLE PUNCTUATIONsSINGLE PUNCTUATIONzcOENICIAN LETTER AINcLFdBETdDELTeGAMLeHEaTdKAFdLAMDeMEMdNUNd
PEcQOFdROSHeSADEdEMKdHINeTAUcETdWAUdYODdZAIkNUMBER ONEa HUNDREDlTENcHREEeWENTYeOkWORD SEPARATORwLUSf
ICKaUP TRUCKkEbGa FACEeNOSEgLCROW SIGNjE OF POOiLcNATAdCHED FINGERSkING HANDkE DECORATIONlAPPLEgWHEE
L STARlSCESdTOLeTCHFORKa WITH TEE TOPvLACARDdE OF INTEREST SIGNnWORSHIPnNCK CONSTANTa OVER TWO PIyYG
ROUND SLIDEmING CARD ACE OF CLUBSfDIAMONDSiHEARTSgSPADESnBACKdLACK JOKERlEIGHT OF CLUBSfDIAMONDSiHEA
RTSgSPADESpFIVE OF CLUBSfDIAMONDSiHEARTSgSPADESnOOLcUR OF CLUBSfDIAMONDSiHEARTSgSPADESoJACK OF CLUBS
fDIAMONDSiHEARTSgSPADESoKING OF CLUBSfDIAMONDSiHEARTSgSPADESnNIGHT OF CLUBSfDIAMONDSiHEARTSgSPADESqN
INE OF CLUBSfDIAMONDSiHEARTSgSPADESoQUEEN OF CLUBSfDIAMONDSiHEARTSgSPADESpRED JOKERjSEVEN OF CLUBSfD
IAMONDSiHEARTSgSPADESoIX OF CLUBSfDIAMONDSiHEARTSgSPADESnTEN OF CLUBSfDIAMONDSiHEARTSgSPADESmHREE OF
 CLUBSfDIAMONDSiHEARTSgSPADESoRUMP-1a0b1b2b3b4b5b6b7b8b9c2a0b1c3b4b5b6b7b8b9gWO OF CLUBSfDIAMONDSiHE
ARTSgSPADESnWHITE JOKERwDbUaNGEReS SIGNa ABOVE EQUALS SIGNrIN LEFT HALF CIRCLEqRIGHT HALF CIRCLErTRI
ANGLElWITH BLACK TRIANGLEoCIRCUMFLEX ACCENT ABOVExDOT BELOWjSMALL CIRCLE ABOVErUBSCRIPT TWOnTILDE AB
OVEfBELOWw-MINUS SIGNmTOa FORM FIVEdOUReTHREEeWOnMbOCKET CALCULATORpLICE CARaS REVOLVING LIGHTuOFFIC
ERmODLEeP DIRECTIONAL FORMATTINGkISOLATEuCORNfRTABLE STEREOnSEIDONfITION INDICATORpTAL HORNeMARKa FA
CEmBOXfT OF FOODiABLE WATER SYMBOLqTOdTED PLANTkUCHcLTRY LEGiND SIGNhRING LIQUIDlTING CAT FACEiFACEk
WER ON SYMBOLh-OFF SYMBOLnSLEEP SYMBOLlYMBOLlRAYER BEADSkECEDESa ABOVE ALMOST EQUAL TOpEQUALS SIGNlN
OT ALMOST EQUAL TOpEQUAL TOmSINGLE-LINE EQUALS SIGNlNOT EQUAL TOzfBUT NOT EQUIVALENT TOvOR EQUAL TOf
IVALENT TOqUNDER RELATIONuGNANT MANdPERSONgWOMANlSCRIPTION TAKEnENTATION FORM FOR VERTICAL COLONdMMA
fEM DASHgN DASHgXCLAMATION MARKqHORIZONTAL ELLIPSIStIDEOGRAPHIC COMMAfFULL STOPvLEFT ANGLE BRACKETnB
LACK LENTICULAR BRACKETyCORNER BRACKETnURLY BRACKETnDOUBLE ANGLE BRACKETuPARENTHESISlSQUARE BRACKETo
TORTOISE SHELL BRACKETwWHITE CORNER BRACKEToLENTICULAR BRACKETzdOW LINEiQUESTION MARKnRIGHT ANGLE BR
ACKETnBLACK LENTICULAR BRACKETyCORNER BRACKETnURLY BRACKETnDOUBLE ANGLE BRACKETuPARENTHESISlSQUARE B
RACKEToTORTOISE SHELL BRACKETwWHITE CORNER BRACKEToLENTICULAR BRACKETeKCETzfSEMICOLONjTWO DOT LEADER
oWAVY LOW LINEzqTZELeVIOUS PAGElIMEcNCEaSSeT SCREEN SYMBOLoERa ICONjVACY MESSAGEkTE USE ONEdTWOe-1b2
lOBING CANEjHIBITED SIGNmJECTIVEhPERTY LINEjORTIONaAL TOmSERPINAjSALTER PAHLAVI FOUR DOTS WITH CROSS
fDOTsLETTER ALEPHfBETHeDALETHgGIMELfHEaTHeKAPHeLAMEDHgMEM-QOPHiNUNdPEcSADHEdMEKHfHINeTAWdWAW-AYIN-RE
SHnYODHeZAYINmNUMBER FOUReONEa HUNDREDlTENcHREEeWENTYeOkSECTION MARKmTURNED SECTION MARKzjU1b2bBLIC
 ADDRESS LOUDSPEAKERyNCTUATION SPACElS ELEVATUS MARKtRPLE HEARTjSEdSHPINfT LITTER IN ITS PLACE SYMBO
LzfQUADRANT LOWER LEFTeRIGHTlUPPER LEFTa AND LOWER LEFT AND LOWER RIGHTuRIGHTlUPPER RIGHT AND LOWER
 LEFTeRIGHTzlRIGHTa AND LOWER LEFTa AND LOWER RIGHTzvUPLE INTEGRAL OPERATORrPRIMEmRTER NOTEjTERNION
 INTEGRAL OPERATORzbESTION EXCLAMATION MARKqMARKfED EQUAL TOrINCUNXgOTATION MARKoRABBITa FACEjCCOONe
ING CARdMOTORCYCLEpDICAL SYMBOL BOTTOMrOa BUTTONhACTIVE SIGNoILWAY CARdTRACKkNaBOWeSED BACK OF HANDm
COMMAfDOTaTED INTERPOLATION MARKERzcFISTeHANDa WITH FINGERS SPLAYEDpPART BETWEEN MIDDLE AND RING FIN
GERSzvINTERPOLATION MARKERuMC SIGNgD SIGNgR SIGNhSQUARElMbTaIOdZOReECEIPTeORD SEPARATORnREATIONAL VE
HICLErYCLED PAPER SYMBOLpING SYMBOL FOR GENERIC MATERIALSrTYPE-1 PLASTICSk2 PLASTICSk3 PLASTICSk4 PL
ASTICSk5 PLASTICSk6 PLASTICSk7 PLASTICSzjD APPLEfGIFT ENVELOPEpFERENCE MARKmGIONAL INDICATOR SYMBOL
 LETTER AbBbCbDbEbFbGbHbIbJbKbLbMbNbObPbQbRbSbTbUbVbWbXbYbZzfSTERED SIGNnJANG CONSONANT SIGN HbNaGcR
qLETTER AbBAcCAcDAcGAcHAcJAcKAcLAcMAbBAdNAbDAcGAbGAdYAbJAePAcRAcSAcTAcWAcYAjSECTION MARKmVIRAMAfOWEL
 SIGN AIbUcEaAbUcIbObUrLIEVED FACElMINDER RIBBONnPLACEMENT CHARACTERtSPONSEfTRICTED LEFT ENTRY-1b2sO
OMgTURN LEFTeRIGHTfSYMBOLlVERSE CHECKER BOARDnINDEXfLIGHT FOUR POINTED PINWHEEL STARzfNE FEEDjSOLIDU
Sa OPERATORiPRECEDING SUBSETqWITH HORIZONTAL STROKEzfTILDE OPERATOR ABOVE LEFTWARDS ARROWpRIGHTWARDS
 ARROWznD ANGLEa WITH UNDERBARtCOMMAfDOUBLE PRIMEa QUOTATION MARKuSTROKE NOT SIGNwEMPTY SETjFORKED P
ARAGRAPHOSsHAND WITH MIDDLE FINGER EXTENDEDzhNOT SIGNiPILCROW SIGNlRIMEfQUESTION MARKnRAISED HAND WI
TH FINGERS SPLAYEDzgIGHT ANGLEkOTATED FLORAL HEART BULLETzcSANS-SERIF CAPITAL LtEMICOLONjTHUMBS DOWN
 SIGNjUP SIGNnILDEa EQUALSlRIPLE PRIMEmVICTORY HANDsOLVING HEARTSpHINOCEROSjIaAL SIGNhBBONa ARROW DO
WN LEFTeRIGHTkLEFT DOWNeUPhRIGHT DOWNeUPiUP LEFTeRIGHTtCE BALLeCRACKERkFLEdGHT AND LOWER ONE EIGHTH
 BLOCKwUPPER ONE EIGHTH BLOCKyGER BUBBLEjLEa BRACKETa WITH DOTqDOTTED SUBSTITUTION MARKERzbSUBSTITUT
ION MARKERtVARIANT WITH SQUAREtWITH ARCdDOWNWARDS ZIGZAG ARROWzhRC GREATER-THAN BRACKETwROW WITH CIR
CLED PLUSmSMALL CIRCLExBLACK LENTICULAR BRACKETsTORTOISE SHELL BRACKETzdCEILINGgORNER BRACKETnURLY B
RACKETa LOWER HOOKkMIDDLE PIECEmUPPER HOOKyDOTTED SUBSTITUTION BRACKETzUBLE ANGLE BRACKETmRROW WITH
 ROUNDED HEADxPARENTHESISlQUOTATION MARKoWIGGLY FENCEtFISH TAILhVE EIGHTHS BLOCKrLOORfHALF BLACK CIR
CLEgSTARiOCKfFOLDERgMEDIUM SHADEmRUNNING MANoND TELEPHONE RECEIVERxLOW PARAPHRASE BRACKETwNORMAL FAC
TOR SEMIDIRECT PRODUCTzhONE EIGHTH BLOCKmQUARTER BLOCKqPEN SQUARED DOTpUTER JOINkPARENTHESISa EXTENS
IONjLOWER HOOKkUPPER HOOKwRAISED OMISSION BRACKETxS-SHAPED BAG DELIMITERvEMIDIRECT PRODUCTqVEN EIGHT
HS BLOCKsIDEWAYS U BRACKETqNGLE QUOTATION MARKuPEAKERa WITH ONE SOUND WAVEoTHREE SOUND WAVESzcECH BU
BBLEmQUARE BRACKETa EXTENSIONjLOWER CORNERmUPPER CORNERmWITH DOUBLE STROKEnQUILLfSTROKEgTICK IN BOTT
OM CORNERnTOP CORNERsUNDERBARzcUBSTITUTION BRACKETuTACKdHIRD WHITE RIGHT POINTING INDEXzfOUGHT BUBBL
EmREE EIGHTHS BLOCKnQUARTERS BLOCKtORTOISE SHELL BRACKETvRANSPOSITION BRACKETtIANGLEa ABOVE LEFT TRI
ANGLEwULAR ONE QUARTER BLOCKzdVERTICAL BAR WITH QUILLnOX LINErWHITE CORNER BRACKETnURLY BRACKETnLENT
ICULAR BRACKETsPARENTHESISlSQUARE BRACKEToTORTOISE SHELL BRACKETzcIGGLY FENCEn-FACING ARMENIAN ETERN
ITY SIGNwFISTeSVASTI SIGNa WITH DOTSzdHANDED INTERLACED PENTAGRAMzcPOINTING ANGLE BRACKETnCURVED ANG
LE BRACKETuDOUBLE ANGLE QUOTATION MARKzcMAGNIFYING GLASSzSHADED WHITE RIGHTWARDS ARROWzdIDE ARC CLOC
KWISE ARROWyTO-LEFT EMBEDDINGjISOLATEhMARKeOVERRIDErHAND INTERIOR PRODUCTvWARDS ARROWa ABOVE ALMOST
 EQUAL TOpREVERSE ALMOST EQUAL TOpTILDE OPERATORwSHORT LEFTWARDS ARROWvTILDE OPERATORtND UPPER AND L
OWER ONE EIGHTH BLOCKzlFROM BARa TO BLACK DIAMONDzOVER LEFTWARDS ARROWuTHROUGH GREATER-THANmSUPERSET
iXiO BARcLACK DIAMONDqWITH CORNER DOWNWARDSqDOTTED STEMjUBLE VERTICAL STROKEwEQUILATERAL ARROWHEADvH
OOKeLARGE TRIANGLE ARROWHEADxOOPeMEDIUM TRIANGLE ARROWHEADzNOTCHED TAILmPLUS BELOWkSMALL EQUILATERAL
 ARROWHEADvTRIANGLE ARROWHEADxTROKEgTAILa WITH DOUBLE VERTICAL STROKEwVERTICAL STROKEyIP DOWNWARDSjU
PWARDSlVERTICAL STROKEv-TAILkBACK-TILTED SHADOWED WHITE ARROWzgLACK ARROWfCIRCLED WHITE ARROWyOTTOM
 SHADED WHITE ARROWzCOMPRESSED ARROWqDASHED ARROWlOUBLE ARROWa FROM BARiWITH STROKEgVERTICAL STROKEv
-TAILkDASH ARROWrFINGER-POST ARROWqRONT-TILTED SHADOWED WHITE ARROWziHANDcRPOON OVER LEFTWARDS HARPO
ONwWITH BARB DOWN ABOVE LEFTWARDS HARPOON WITH BARB DOWNznBELOW LONG DASHpFROM BARiTO BARhWARDSjUP A
BOVE LEFTWARDS HARPOON WITH BARB UPzeONG DASHjRIGHTWARDS HARPOON WITH BARB DOWNzoFROM BARiTO BARhWAR
DSyEAVY ARROWfCOMPRESSED ARROWwLEFT-SHADED WHITE ARROWxOPEN-HEADED ARROWrPAIRED ARROWSnQUADRUPLE ARR
OWpRIGHT-SHADED WHITE ARROWxOCKETgSANS-SERIF ARROWpQUARED ARROWkIGGLE ARROWoTOP SHADED WHITE ARROWvR
IANGLE ARROWHEADk-HEADED ARROWa OVER LEFTWARDS TRIANGLE-HEADED ARROWzlTO BARgWITH BOLD SHAFTkDOUBLE
 HORIZONTAL STROKErVERTICAL STROKEwHEAVY SHAFTlLONG TIP DOWNWARDSjUPWARDSqMEDIUM SHAFTmNARROW SHAFTm
VERY HEAVY SHAFTzcDASHED ARROWmPAIRED ARROWSzbPLE ARROWfDASH ARROWqWO HEADED ARROWn-HEADED ARROW FRO
M BARiWITH DOUBLE VERTICAL STROKEwTAILa WITH DOUBLE VERTICAL STROKEwVERTICAL STROKEyRIANGLE ARROWHEA
DStVERTICAL STROKEzbTRIPLE DASH ARROWzdWAVE ARROWjHITE ARROWa FROM WALLjWITHIN TRIANGLE ARROWHEADzvN
Ga ABOVEfBUOYeEQUAL TOiIN EQUAL TOlOPERATORiPOINTgED PLANETjING BELLkSING DIAGONAL CROSSING FALLING
 DIAGONALqSOUTH EAST ARROWzpLEbIbMbOcOASTED SWEET POTATOsBOT FACEiCKaETeLL OF PAPERjED-UP NEWSPAPERo
R COASTERhSKATEiING ON THE FLOOR LAUGHINGzcMAN AS SIGNhCENTURIAL SIGNoDENARIUS SIGNmIMIDIA SEXTULA S
IGNtUPONDIUS SIGNoNUMERAL EIGHTeLEVENgFIFTYa EARLY FORMkTHOUSANDmVEa HUNDREDhTHOUSANDmOUReNINEeONEa
 HUNDREDa THOUSANDqTHOUSANDa C DqREVERSED ONE HUNDREDuSEVENeIXa LATE FORMnTENa THOUSANDlHREEeWELVEeO
lQUINARIUS SIGNoSEMUNCIA SIGNlSTERTIUS SIGNnXTANS SIGNiULA SIGNlILIQUA SIGNmUNCIA SIGNoOSTERfSEaTTEf
TATED CAPITAL QjFLORAL HEART BULLETtHEAVY BLACK HEART BULLETyLIGHT FOUR POINTED BLACK CUSPzeWHITE FO
UR POINTED CUSPzeUND PUSHPINhTARGEThED SYMBOL FOR CAIdFUcLUcSHOUcUANGXIiXItWBOATgSbUBLE SIGNiGBY FOO
TBALLmLE-DELAYEDkMI DIGIT EIGHTfFIVEdOUReNINEeONEdSEVENeIXdTHREEeWOjFRACTION ONE HALFeQUARTERhTHIRDj
TWO THIRDStNUMBER EIGHT HUNDREDiYgFIFTYdVE HUNDREDlORTYdUR HUNDREDmNINE HUNDREDiTYgONE HUNDREDlSEVEN
 HUNDREDiTYgIX HUNDREDiTYfTENcHIRTYeREE HUNDREDmWENTYeO HUNDREDvNIC ARLAUG SYMBOLnBELGTHOR SYMBOLpCR
OSS PUNCTUATIONrLETTER AC AdESCdLGIZ EOLHXkNSUZ AhBERKANAN BEORC BJARKAN ByCaALCdEALCdNcWEORTHhDaAGA
Z DAEG DlOTTED-LbNbPiEaARcHWAZ EH EjNGcTHdFEHU FEOH FE FnRANKS CASKET ACbESCeEHcIScOSqGaARcEBO GYFU
 GjRdHAEGL HfGLAZ HiICELANDIC-YRlNGaWAZfORcSAZ IS ISS ImWAZ EOHiJERAN JhKaAUN KcAfLAUKAZ LAGU LOGR L
rONG-BRANCH-AR AEfHAGALL HiMADR MgOSS OfYRoMANNAZ MAN MmNAUDIZ NYD NAUD NrOaEbNbObPEN-PfS OdTHALAN E
THEL OpPERTHO PEORTH PpQbRAIDO RAD REID RqSHaORT-TWIG-AR AeBJARKAN BjHAGALL HiMADR MgNAUD NgOSS OfSO
L SfTYR TfYRmIGEL LONG-BRANCH-SOL SwOWILO ShTANeTHURISAZ THURS THORNtIWAZ TIR TYR TpURUZ UR UjVbWaUN
JO WYNN WmXbYaRcZiMULTIPLE PUNCTUATIONuSINGLE PUNCTUATIONsTVIMADUR SYMBOLsNERcING SHIRT WITH SASHvPE
E SIGNiSSIAN ASTROLOGICAL SYMBOL BINOVILEiNOVILEgQUINTILEiSENTAGONiTREDECILEjVIGINTILEzmS IN TRIANGL
EmAFETY PINdVESTjGITTARIUSjILBOATgKE BOTTLE AND CUPrLT SHAKERhIREeUTING FACElMARITAN ABBREVIATION MA
RKrLETTER ALAFeBAAcITdDALATfFIcGAMANfINbTbYcKAAFeLABATfMIMdNUNdQUFdRISHeSHANdINGAAThTAAFdITcSAADIYhY
UTdZENkMARK DAGESHgEPENTHETIC YUToINa-ALAFhNEQUDAAhOCCLUSIONnODIFIER LETTER EPENTHETIC YUToIbSHORT A
xPUNCTUATION AFSAAQfNGEDdNAAUfRKAANUgTMAAUgBAUdMELODIC QITSAnNEQUDAAhQITSAfSHIYYAALAAjOF MASHFAATmTU
RUeZAEFdIQAArVOWEL SIGN AaAcEbIbLONG AaAcEbIbUgOaVERLONG AaAlSHORT AgUKUNfUuNDWICHfS-SERIF HEAVY DOU
BLE COMMA QUOTATION MARK ORNAMENTzeTURNED COMMA QUOTATION MARK ORNAMENTzsLOW DOUBLE COMMA QUOTATION
 MARK ORNAMENTzvINTERROBANG ORNAMENTzeRIcTELLITEa ANTENNAoURNeURASHTRA CONSONANT SIGN HAARUuDANDAeIG
IT EIGHTfFIVEdOUReNINEeONEdSEVENeIXdTHREEeWOdZEROjOUBLE DANDAmLETTER AaAbIbUcBAbHAdCAbHAdDAbDAbHAdHA
dEaEcGAbHAdHAcIaIcJAbHAdKAbHAdLAbLAdMAcNAbGAcNAcYAdOaOcPAbHAdRAcSAbHAcSAdTAbHAcTAbHAeUaUcVAbOCALIC L
aLcRaRkYAjSIGN ANUSVARAiCANDRABINDUlVIRAMAeSARGAmVOWEL SIGN AAbIbUcEaEcIaIcOaOcUaUcVOCALIC LaLcRaRzd
OPODgXOPHONEiCALESdRFdHOOLa SATCHELmIbOOTEReRPIONcUSgREENcWDRIVERiIPT CAPITAL BbEbFbHbIbLbMbPbRjLIGA
TURE ET ORNAMENTuSMALL EbGbLbOlOLLdUPLEgEALbTcCOND PLACE MEDALpTION SIGNiOReDNAdE-NO-EVIL MONKEYpDLI
NGgGMENTaED DIGIT EIGHTfFIVEdOUReNINEeONEdSEVENeIXdTHREEeWOdZEROsLFIEeMICOLONfDIRECT PRODUCT WITH BO
TTOM CLOSEDziSEXTILEjPARATED SYMBOLoRIOUS FACE WITH SYMBOLS COVERING MOUTHzmVICE MARKkSAME DOThQUIQU
ADRATEmT MINUSfTRANSMIT STATEqWING NEEDLElXTILEgGCcHADOWED WHITE CIRCLEgLATIN CROSSlSTARqLLOW PAN OF
 FOODqMROCKfRADA ABBREVIATION SIGNrCONTINUATION SIGNrDANDAeIGIT EIGHTfFIVEdOUReNINEeONEdSEVENeIXdTHR
EEeWOdZEROjOUBLE DANDAmEKAMdXTRA SHORT VOWEL MARKwHEADSTROKEkLETTER AaAbIbUcBAbHAdCAbHAdDAbDAbHAdHAd
EbGAbHAdHAcIaIcJAbHAdKAbHAdLAbLAdMAcNAbGAcNAcYAdObPAbHAdRAcSAbHAcSAdTAbHAcTAbHAeUaUcVAbOCALIC LaLcRa
RkYAjOMcSANDHI MARKkECTION MARK-1b2mPARATORiIGN ANUSVARAhVAGRAHAiCANDRABINDUlINVERTED CANDRABINDUuJI
HVAMULIYAlNUKTAfSIDDHAMhUPADHMANIYAlVIRAMAeSARGAlUTRA MARKkVOWEL MODIFIER MARKnSIGN AAbIbUcEbIaIcObP
RISHTHAMATRA EpUaUcVOCALIC LaLcRaRzKcVED ICEgIAN LETTER ADOcGEcHbIRcREbRAYeSHcWEdBIBdCHURCHgDEADeEAR
bTcGGcRRdFEEdGAGdHA-HAeUNGeIANcCEcFcJUDGEfKICKeLOLLeMEASUREgIMEeNUNdOAKcILcNbOZEdRbUTdPEEPeROAReSObU
REeTHEYcIGHeOTdUPcVOWdWOEbOLeYEAbWdZOOqEEPdIELDdFT INcOUTgNTO SHRINEkPcOCKED FACE WITH EXPLODING HEA
DzeOTING STARkPPING BAGSeTROLLEYnRT BACKSLANTED SOUTH ARROWwENT ARROW POINTING DOWNWARDS THEN NORTH
 EASTzuDOWN TACKa WITH OVERBARwLEFT TACKjRIGHTWARDS ARROW ABOVE LEFTWARDS ARROWznSLANTED NORTH ARROW
tUP TACKa ABOVE SHORT DOWN TACKvWITH UNDERBARwCAKEeHAND FORMAT CONTINUING OVERLAPsDOWN STEPjLETTER O
VERLAPoUP STEPtSdULDERED OPEN BOXqWEReRIMPdUGdUFFLE PRODUCTnYcIaDDHAM DANDAeOUBLE DANDAmEND OF TEXT
 MARKqLETTER AaAbIbLTERNATE UkUcBAbHAdCAbHAdDAbDAbHAdHAdEbGAbHAdHAcIaIcJAbHAdKAbHAdLAcMAcNAbGAcNAcYA
dObPAbHAdRAcSAbHAcSAdTAbHAbREE-CIRCLE ALTERNATE IxTAbHAdWO-CIRCLE ALTERNATE IaIxUaUcVAbOCALIC LaLcRa
RkYAjREPETITION MARK-1b2b3rSECTION MARK DOUBLE RINGa WITH RAYSvWITH CIRCLES AND FOUR ENCLOSURESpRAYS
eTWO ENCLOSURESzbDOUBLE CRESCENTSqQUADRUPLE CRESCENTStRAYS AND DOTTED CRESCENTSjDOUBLE CRESCENTSqTRI
PLE CRESCENTSzhSEPTUPLE CRESCENTSsTRIDENT AND DOTTED CRESCENTSqU-SHAPED ORNAMENTSzcPLE CRESCENTSzhPA
RATOR BARdDOTmIGN ANUSVARAiCANDRABINDUlNUKTAfSIDDHAMhVIRAMAeSARGAmVOWEL SIGN AAbIbLTERNATE UaUlUcEbI
aIcObUaUcVOCALIC RaRzbEWAYS BLACK DOWN POINTING INDEXtLEFT POINTING INDEXtRIGHT POINTING INDEXuUP PO
INTING INDEXxWHITE DOWN POINTING INDEXtLEFT POINTING INDEXtRIGHT POINTING INDEXuUP POINTING INDEXzfG
N OF THE HORNSnWRITING AIR BLOW SMALL ROTATIONSqING OUTlSUCK SMALL ROTATIONSqING INoBREATH EXHALEgIN
HALElUSH BETWEENhMULTIPLEiSINGLEmCHEEKS NEUTRALhPUFFEDgSUCKEDmOLONdMMAfDREAMY EYEBROWS DOWN NEUTRALm
NEUTRAL DOWNeUPkUP NEUTRALzYNAMIC ARROWHEAD LARGEfSMALLpEVERY OTHER TIMEqFASTeGRADUALhRELAXEDhSIMULT
ANEOUSa ALTERNATINGxLOWeTENSEnEARSdXCITEMENTjYE BLINK MULTIPLEiSINGLEmWINKfBROWS STRAIGHT DOWNeNEUTR
ALhUPrGAZE-FLOORPLANE CURVEDgSTRAIGHTa ALTERNATINGlDOUBLEzbWALLPLANE CIRCLINGhURVEDgSTRAIGHTa ALTERN
ATINGlDOUBLEzfLASHES DOWNeFLUTTERINGkUPjS CLOSEDgHALF CLOSEDgOPENjOPENeSQUEEZEDiWIDE OPENfNING MOVEM
ENTwFACE DIRECTION POSITION NOSE FORWARD TILTINGpUP OR DOWNa TILTINGzvILL MODIFIER-2b3b4b5b6nNGERfLI
CK LARGE MULTIPLEiSINGLEmSEQUENTIALjMALL MULTIPLEiSINGLEqOORPLANE SHOULDER HIP MOVEzcOREHEAD CONTACT
hNEUTRALhWRINKLEDqULL STOPjGRASP BETWEENhMULTIPLEiSINGLEmHAIRcND-ANGLEa INDEXa MIDDLE LITTLEgRINGlRI
NG LITTLEa OUTpTHUMBa INcOUTpLITTLE INDEXa THUMB INDEX THUMBa OUTzcUPjMIDDLE RING LITTLEa INcOUTwRIN
G DOWN MIDDLE THUMB INDEX CROSSzeLITTLErCIRCLEa INDEXa BENTeHINGEfMIDDLEa CROSS LITTLEhEDhLITTLEgRIN
GeTHUMBmRING LITTLErLITTLE INDEXfUPjMIDDLE RING LITTLEa BENTqUPjRING LITTLErLAWa FOUR FINGERS CONJOI
NEDwINDEX THUMB CURVE THUMB INSIDEzfMIDDLE RING LITTLE CONJOINEDa SIDEziNO THUMBiTHUMB FORWARDhSIDEo
UPa FIVE FINGERS SPREADa OPENyINDEXa RING LITTLElTHUMBa OPENqMIDDLE RING LITTLEsNO THUMBiOPENa NO TH
UMBiTHUMB FORWARDhSIDEpTHUMB FORWARDhSIDEmRLICUEa INDEX RING LITTLE ONuMIDDLE RING LITTLE ONvOPENnFI
STa FOUR FINGERS CONJOINED BENTzcHEELeINDEXa BENTa OVER MIDDLEqCUPPEDgHINGEDa LOWdMIDDLE UPa THUMB S
IDEzcMIDDLEa BENTa THUMB STRAIGHTtCONJOINEDa CUPPEDa THUMB FORWARDuHINGEDa THUMB SIDErINDEX BENTkMID
DLE BENTlTHUMB FORWARDhSIDEa BENTeCONJOINEDzeROSS LITTLEhEDa THUMB SIDEsHINGEDa SPREAD THUMB SIDEyLI
TTLEgRAISED KNUCKLESoINGa BENTeCONJOINEDoSTRAIGHT THUMB BENTtTHUMBa ANGLEDa OUTkBENTeCIRCLEDgONJOINE
D HINGEDpUPPEDgHINGEDfOOKEDmUP SPREAD THUMB FORWARDzfRAISED KNUCKLEnING LITTLElTHUMB ANGLED IN MIDDL
E UPmOUT MIDDLE UPuCIRCLEaD MIDDLE UPqUPPED MIDDLE UPoRLICUEfVE THUMB INSIDEgUNDERrFORWARD INDEX BEN
TeSTRAIGHTwHOOKaED MIDDLE HINGEDgUPqSIDEa BOTH BENTjINDEX BENTeHINGElTHUMB BENTeCONJOINEDjDIAGONALzU
P MIDDLE HINGEDa THUMB CONJOINEDjSIDEziLITTLE BENTeDOWNa OTHERS CIRCLEDoRIPPLE CURVEDgSTRAIGHTuINDEX
a THUMBlRAISED KNUCKLEoTHUMBeOUCHES THUMBnUPjMIDDLE BENT OVER INDEXpDOWNeLITTLEgRAISED KNUCKLEnING L
ITTLElTHUMB ANGLED INDEX UPiOUT INDEX CROSSEDhUPtCIRCLED INDEX HINGEDgUPpUPPED INDEX UPpHOOKED INDEX
 UPpLITTLEmUPa THUMB SIDEuRING DOWNeINDEXfLITTLEgMIDDLEa CONJOINEDjRAISED KNUCKLESwRAISED KNUCKLEoTH
UMBfUPhTHUMBa BETWEEN INDEX MIDDLEa STRAIGHTvMIDDLE RINGlRING LITTLEtFORWARDhHEELeOVER FOUR RAISED K
NUCKLESuTWO FINGERSqSIDE BENTeCONJOINEDjDIAGONALnUNDER FOUR FINGERSmINDEX BENTkLITTLE UPjTHREE FINGE
RSmWO FINGERSzcLATa BETWEEN PALM FACINGSuFIVE FINGERS SPREADa BENTeFOUR BENTjHINGEDa NO THUMBiTHUMB
 SIDErTHUMB FORWARDzhOUR FINGERSa BENTeCONJOINEDa SPLITpHINGEDtHEELa FIVE FINGERS SPREADa BENTeFOUR
 BENTzeTHUMB SIDEpSPLIT CENTREa THUMB SIDEa BENTwINDEX THUMB SIDEqLITTLEmTHUMB BENTeFORWARDhSIDEpHIN
GEa FIVE FINGERS SPREAD OPENxOUR FINGERS CONJOINEDwINDEXa HINGEDgMIDDLE LITTLEgRINGa CONJOINEDvRING
 LITTLElTHUMBa LARGEfOPENeSIDEdMALLrLITTLEa INDEXa THUMBlTHUMBmMIDDLEa RING LITTLEsNO THUMBiOPENa NO
 THUMBiTHUMB FORWARDhSIDEpRINGa DOWN INDEX THUMB HOOK MIDDLEziSMALLfTHUMB BETWEEN MIDDLE RINGtSIDEa
 TOUCHING INDEXzfOOKa CURLICUEiINDEX RING LITTLE INcOUTdUNDERxMIDDLE RING LITTLE CONJOINEDa INcOUTzT
HUMBmRING THUMBpOVALa FIVE FINGERS SPREADtINDEXfLITTLE UPjNO THUMBiRING LITTLElTHUMB FORWARDhSIDEtEA
Da MOVEMENT CIRCLEh-FLOORPLANE CURVEfSTRAIGHTtWALLPLANE CURVEfSTRAIGHTiTILTxRIMiLIMB COMBINATIONlLEN
GTH-1b2b3b4b5b6b7lP LOWER OVER UPPERqUPPER OVER LOWERrS PRESSED TOGETHERuOCATION DEPTHfHEAD NECKhIGH
TgLIMBS DIGITSmTORSOfWIDTHg-FLOORPLANE SPACEqWALLPLANE SPACEyMOUTH CLOSED CONTACThFORWARDhNEUTRALnOR
NERShFROWNa OPENeWRINKLEDoKISSa FORWARDhWRINKLEDnOPEN CIRCLEgFORWARDhOVALa WRINKLEDiYAWNjRECTANGLEa
 WRINKLEDiYAWNoWRINKLEDnSMILEa OPENeWRINKLEDoTENSEa FORWARDhSUCKEDmWRINKLES DOUBLEgSINGLEtVEMENT-DIA
GONAL AWAY LARGEaSThMEDIUMgSMALLkBETWEEN AWAY LARGEaSThMEDIUMgSMALLkTOWARDS LARGEaSThMEDIUMgSMALLvTO
WARDS LARGEaSThMEDIUMgSMALLwFLOORPLANE ARM CIRCLE HITTING WALL LARGE DOUBLEgSINGLEmMEDIUM DOUBLEgSIN
GLEnSMALL DOUBLEgSINGLEzlBENDdOX LARGEfMEDIUMgSMALLjCHECKeORNER LARGEfMEDIUMgSMALLlROSSeURVE COMBINE
DiHITTING CEILING LARGEfSMALLnFLOOR LARGEfSMALLtLARGEaSThMEDIUMgSMALLlDOUBLE ALTERNATINGa WRIST FLEX
wSTRAIGHTiWRIST FLEXrFINGER CIRCLES HITTING WALL DOUBLEgSINGLEzbONTACToHUMP HITTING CEILING LARGE DO
UBLEgTRIPLEmSMALL DOUBLEgTRIPLEuFLOOR LARGE DOUBLEmSMALL DOUBLEmTRIPLE LARGE TRIPLEmSMALL TRIPLEziSM
ALLkJAWdLOOP HITTING CEILING LARGE DOUBLEgSINGLEmSMALL DOUBLEgSINGLEuFLOOR LARGE DOUBLEgSINGLEmSMALL
 DOUBLEgSINGLEzbSMALLkPEAKS LARGEfMEDIUMgSMALLlSHAKING PARALLELpINGLE STRAIGHT LARGEaSThMEDIUMgSMALL
oWRIST FLEXrTRIPLE ALTERNATING MOVEMENTiWRIST FLEXwSTRAIGHT MOVEMENTrWRIST FLEXrWAVE HITTING CEILING
 LARGEfSMALLnFLOOR LARGEfSMALLtLARGEfSMALLeNAKEjRIST CIRCLE HITTING WALL DOUBLEgSINGLEzhZIGZAG LARGE
fMEDIUMgSMALLxHINGE DOWN SEQUENTIALpSIDE TO SIDE SCISSORSvUP DOWN ALTERNATING LARGEfSMALLrLARGEfSMAL
LkSEQUENTIALtWALLPLANE ARM CIRCLE MEDIUM DOUBLEgSINGLEnSMALL DOUBLEgSINGLExBEND LARGEfMEDIUMgSMALLjO
X LARGEfMEDIUMgSMALLjCHECK LARGEfMEDIUMgSMALLkORNER LARGEfMEDIUMgROTATIONiSMALLlROSSeURVE HALF-CIRCL
E LARGEaSThMEDIUMgSMALLqITTING CHESTfFRONT WALLsQUARTER LARGEaSThMEDIUMgSMALLnTHEN STRAIGHTlREE-QUAR
TER CIRCLE MEDIUMgSMALLzcD CROSS MEDIUMgSMALLsDOUBLE ALTERNATINGa WRIST FLEXwSTRAIGHTiWRIST FLEXrFIN
GER CIRCLES DOUBLEgSINGLEnONTACToHUMP HITTING CHESTfFRONT WALLsLARGEfMEDIUMgSMALLkJAWdLOOP HITTING C
HESTfFRONT WALLsLARGEfMEDIUMgSMALLa DOUBLErPEAKS LARGEfMEDIUMgSMALLlSHAKINGgINGLE STRAIGHT LARGEaSTh
MEDIUMgSMALLoWRIST FLEXrTRIPLE ALTERNATINGa WRIST FLEXwSTRAIGHT MOVEMENTrWRIST FLEXrWAVE CURVE DOUBL
E LARGEfMEDIUMgSMALLmTRIPLE LARGEfMEDIUMgSMALLsDIAGONAL PATH LARGEfMEDIUMgSMALLtHITTING CHESTfFRONT
 WALLwRIST CIRCLE FRONT DOUBLEgSINGLEzZIGZAG LARGEfMEDIUMgSMALLzgNECKdOSE CONTACThNEUTRALhWIGGLESgRI
NKLESnPARENTHESISlROTATION MODIFIER-10b1b2b3b4b5b6c2b3b4b5b6b7b8b9l-FLOORPLANE ALTERNATINGa HITTING
 CEILINGhFLOORzDOUBLEa HITTING CEILINGhFLOORuSINGLEa HITTING CEILINGhFLOORzgWALLPLANE ALTERNATEbING
 HITTING CHESTfFRONT WALLzfDOUBLEa HITTING CHESTfFRONT WALLzSINGLEa HITTING CHESTfFRONT WALLzsUB BET
WEENhMULTIPLEiSINGLEkSEMICOLONiHOULDER HIP POSITIONSjSPINEjTILTING FROM WAISTzbQUEEZE FLICK ALTERNAT
INGrLARGE MULTIPLEiSINGLEmSEQUENTIALjMALL MULTIPLEiSINGLEtTRIKE BETWEENhMULTIPLEiSINGLEmURFACE BETWE
ENhSYMBOLSpTEETHa BITE LIPSjMOVEMENTiON LIPSa MOVEMENTnTONGUEa MOVEMENTwNSE CHEEKS HIGHeLOWdMIDDLEsO
NGUE CENTRE INSIDE MOUTHmSTICKING OUTtINSIDE MOUTH RELAXEDuLICKING LIPSmMOVES AGAINST CHEEKtSTICKING
 OUT FARqTIP BETWEEN LIPSmTOUCHING INSIDE MOUTHzfRSO-FLOORPLANE TWISTINGtWALLPLANE CURVED BENDlSTRAI
GHT STRETCHzfUCH BETWEENhMULTIPLEiSINGLElRAVEL-FLOORPLANE ROTATION-FLOORPLANE ALTERNATINGlDOUBLEgSIN
GLErWALLPLANE ALTERNATINGlDOUBLEgSINGLEzSHAKINGsWALLPLANE ARM SPIRAL DOUBLEgSINGLEgTRIPLErROTATION-F
LOORPLANE ALTERNATINGlDOUBLEgSINGLErWALLPLANE ALTERNATINGlDOUBLEgSINGLEzSHAKINGyUPPER BODY TILTING F
ROM HIP JOINTSzjWALLPLANE SHOULDER HIP MOVEzmLHOUETTE OF JAPANrMILAR ABOVE GREATER-THAN ABOVE EQUALS
 SIGNzfLESS-THAN ABOVE EQUALS SIGNziMINUS SIMILARnOR GREATER-THANmLESS-THANsNE WAVEgGLE CHARACTER IN
TRODUCERuGRAPHIC CHARACTER INTRODUCERzdHIGH-REVERSED-9 QUOTATION MARKzfLEFT-POINTING ANGLE QUOTATION
 MARKziOW-9 QUOTATION MARKuRIGHT-POINTING ANGLE QUOTATION MARKzkSHIFT THREEeWOk-SHIFT-2b3lHALA ARCHA
IC DIGIT EIGHTfFIVEdOUReNINEeONEdSEVENeIXdTHREEeWOjNUMBER EIGHTYgFIFTYeORTYfNINETYgONE HUNDREDhTHOUS
ANDmSEVENTYgIXTYfTENcHIRTYfWENTYvLETTER AAYANNAgEEYANNAgYANNAgIYANNAgLPAPRAANA BAYANNAhCAYANNAhDAYAN
NAgDAYANNAiGAYANNAhJAYANNAhKAYANNAhPAYANNAhTAYANNAgTAYANNAsMBA BAYANNAlUYANNAgYANNAgDANTAJA LAYANNAh
NAYANNAhSAYANNApEEYANNAgYANNAgFAYANNAhHAYANNAhIIYANNAgLUUYANNAgYANNAhRUUYANNAgYANNAhYANNAgKANTAJA NA
ASIKYAYAsMAHAAPRAANA BAYANNAhCAYANNAhDAYANNAgDAYANNAiGAYANNAhJAYANNAhKAYANNAhPAYANNAhTAYANNAgTAYANNA
sYANNAgUURDHAJA LAYANNAhNAYANNAhSAYANNArOOYANNAgYANNAgRAYANNAhSANYAKA DAYANNAgDAYANNAiGAYANNAhJAYANN
ApTAALUJA NAASIKYAYAkSANYOOGA NAAKSIKYAYAsYANNApUUYANNAgYANNAgVAYANNAhYAYANNAnITH DIGIT EIGHTfFIVEdO
UReNINEeONEdSEVENeIXdTHREEeWOdZEROpPUNCTUATION KUNDDALIYAwSIGN AL-LAKUNAiNUSVARAYAkCANDRABINDUlVISAR
GAYAoVOWEL SIGN AELA-PILLAkDIGA AEDA-PILLAkGAETTA-PILLAkYANUKITTAlIS-PILLAiKOMBUVAhPAA-PILLAoGAETTA-
PILLAkYANUKITTAlKETTI AEDA-PILLAkIS-PILLAiPAA-PILLAoOMBU DEKAfVAa HAA AELA-PILLAkDIGA AELA-PILLApGAY
ANUKITTAzpX PETALLED BLACK AND WHITE FLORETTEzhOINTED BLACK STARkPINWHEEL STARnSTAR WITH MIDDLE DOTz
e-PER-EM SPACEnTEEN POINTED ASTERISKxKATEBOARDiI AND SKI BOOTnERdULLa AND CROSSBONESrNKeLANTED EQUAL
 TO OR GREATER-THANa WITH DOT INSIDEzdLESS-THANa WITH DOT INSIDEzmNORTH ARROW WITH HOOKED HEADjRIZON
TAL TAILzmVONIC ASTERISKpEDbEPING ACCOMMODATIONnFACEeSYMBOLkY FACEiUTH OR SPYlICE OF PIZZAlGHTLY FRO
WNING FACEnSMILING FACEtOPEbING LARGE ANDdORnT MACHINEiHeMALL AIRPLANEhMPERSANDiSTERISKiBLUE DIAMOND
mCOLONdMMAbERCIAL ATlNTAINS AS MEMBERjWITH OVERBARhVERTICAL BAR AT END OF HORIZONTAL STROKEzzeDOLLAR
 SIGNlELEMENT OFa WITH OVERBARhVERTICAL BAR AT END OF HORIZONTAL STROKEzzfM DASHgQUALS SIGNkXCLAMATI
ON MARKqFULL STOPjGREATER-THAN SIGNrHYPHEN-MINUSmIDEOGRAPHIC COMMArLEFT CURLY BRACKETnPARENTHESISlTO
RTOISE SHELL BRACKETzSS-THAN SIGNoNUMBER SIGNlORANGE DIAMONDoPERCENT SIGNlLUS SIGNjQUESTION MARKnREV
ERSE SOLIDUSoIGHT CURLY BRACKETnPARENTHESISlTORTOISE SHELL BRACKETzcOMAN NUMERAL EIGHTeLEVENgFIFTYdV
Ea HUNDREDlOUReNINEeONEa HUNDREDhTHOUSANDmSEVENeIXdTENcHREEeWELVEeOrSEMICOLONjTILDEeWO DOTS OVER ONE
 DOT PUNCTUATIONziVEE WITH UNDERBARsER THANa OR EQUAL TOvSH PRODUCTlILEbING CAT FACE WITH HEART-SHAP
ED EYESrOPEN MOUTHyFACE WITH HALOdEART-SHAPED EYESqORNSfOPEN MOUTHa AND COLD SWEATkSMILING EYESmTIGH
TLY-CLOSED EYESzjSMILING EYESa AND HAND COVERING MOUTHtTHREE HEARTSzdUNGLASSESkTEARtRKING FACElOKING
 SYMBOLnNAILcKEdEEZING FACElOW CAPPED MOUNTAINqBOARDERhFLAKEfMANa WITHOUT SNOWtOaCCER BALLiKSdFT HYP
HENgICE CREAMjSHELL FLOPPY DISKsBALLeWARE-FUNCTION SYMBOLwGDIAN COMBINING CURVE ABOVEfBELOWlDOT ABOV
EfBELOWjHOOK ABOVEfBELOWkLONG HOOK BELOWpRESH BELOWkSTROKE BELOWmTWO DOTS ABOVEfBELOWyINDEPENDENT SH
INqLETTER ALEPHeYINeBETHeFETHeGIMELfHEaTHeKAPHeLAMEDHfESHeMEMdNUNdPEcRESH-AYINjSADHEdMEKHfHINeTAWdWA
WdYODHeZAYINmNUMBER ONEa HUNDREDlTENcWENTYnPUNCTUATION CIRCLE WITH DOTpHALF CIRCLE WITH DOTuTWO CIRC
LES WITH DOTSrVERTICAL BARSa WITH DOTSzuHbLID QUILT SQUARE ORNAMENTa IN BLACK SQUAREznUSa WITH OVERB
ARsM SIGNgON WITH RIGHTWARDS ARROW ABOVEzfRA SOMPENG DIGIT EIGHTfFIVEdOUReNINEeONEdSEVENeIXdTHREEeWO
dZEROkLETTER AHcBAHdCAHdDAHdEEHcHcGAHdHAHdIHcJAHdKAHdLAHdMAEbHdNAHcGAHdYAHeOHcPAHdRAHdSAHdTAHdUHcVAH
dYAHvSbUND RECORDING COPYRIGHTwTH EAST ARROWa AND SOUTH WEST ARROWuCROSSING NORTH EAST ARROWzTO CORN
ERjWITH HOOKpBLACK ARROWlDOUBLE ARROWmPOINTING BUDdLEAFeVINE LEAFsSANS-SERIF ARROWqTRIANGLE-HEADED A
RROWa TO BARzdWHITE ARROWqWEST ARROWa AND NORTH WEST ARROWuWITH HOOKpBLACK ARROWlDOUBLE ARROWmPOINTI
NG BUDdLEAFeVINE LEAFsSANS-SERIF ARROWqTRIANGLE-HEADED ARROWa TO BARzdWHITE ARROWuYOMBO CLUSTER-INIT
IAL LETTER LAcRAcSAbHAzbFINAL CONSONANT SIGN -AcBbDbGbKbLbMbNaGcRbSaHxGEMINATION MARKpHEAD MARK WITH
 MOON AND SUNa AND FLAMEfTRIPLE FLAMEztLETTER -AcAbBAbHAdCAbHAdDAbDAbHAdHAcZAdGAbHAdHAcJAbHAdKAbHAcS
SAeLAcMAcNAbGAcNAcYAdPAbHAdRAcSAbHAcSAdTAbHAcSAbHAdTAbHAeVAcYAcZAbHAkMARK DOUBLE SHADlPLUTAfSHADeTSH
EGkSIGN ANUSVARAiJIHVAMULIYAlUPADHMANIYAlVISARGAlUBJOINERjTERMINAL MARK-1b2pVOWEL LENGTH MARKlSIGN A
IbUcEbIbOaEcUaEcVOCALIC LbRzcPaAaCEcGHETTIgRKLEaScING HEARTnEAK-NO-EVIL MONKEYpERa WITH CANCELLATION
 STROKEtONE SOUND WAVEoTHREE SOUND WAVESzING HEAD IN SILHOUETTEyECH BALLOONkDBOATgSMILO SIGNlHERICAL
 ANGLEa OPENING LEFTeUPyIDERa WEBhRAL CALENDAR PADmNOTE PADiSHELLkLASHING SWEAT SYMBOLuONGEdOL OF TH
READlNcRTS MEDALjUTING WHALEnQUARE A OVER MhARUdMbNPEAePAATOfRUHUAfUcBAARERUfRcEETAeIRUdORUTOfQbUSSY
ERUiC OVER KGiALbPcCbDbMa CUBEDfSQUAREDjOaRPORATIONkUPdDAaASUeBbESIdJbLbMa CUBEDfSQUAREDjORUeEEKAAeR
A NAME HEISEIgMEIZIfREIWAfSYOUWAgTAISYOUoGcSUKUUDOhVcFMbOOTcUR CORNERSmGALbNMAdRONeBbHZcIGAcNIIdRUDA
AgPAcURAMUaTONiYcHAaITUeEKUTAARUhRUTUfGbIRAGANA HOKAmONbONbRUePaAcUARADDOgIITOeRANeZcIMAGE OFa OR EQ
UAL TOiNOT EQUAL TOxNaINGUeTIdUcK OHMeAaIRIdRATTOeORIIgBbCALdEESUeGbHZcIROaGURAMUgMEETORUhWATTOiKbLb
Ma CAPITALgUBEDfSQUAREDjOOPOdRUNAfPAcTbUROONEeUZEIROiVbWbYURIIgLEFT OPEN BOX OPERATORvMbNbOGbZENGEgX
cM CUBEDfOHMcVER Sa SQUAREDoSQUAREDiAaHHAdIKUROeRUdNSYONfRUKUfBa SMALLhEETORUfGAaTONgGbHZcIKURONfLbR
IaBAARUiLbMa CUBEDfSQUAREDjOLcPAcSbU AbFbGbLbMbSbVbWdVa MEGAgWa MEGAhNAaNOdFbMbOTTOeSbVbWcONSUdOMUdR
IGINAL OFa OR EQUAL TOiNOT EQUAL TOzbVcPAa AMPSfASENTOfTUeCbEEZIdNIHIdSUdSOdFbHbIASUTORUhKObURUfMbOI
NTOeNDOdSITION INDICATORrPMcRbSbVbWcRADa OVER Sa SQUAREDrEMUcNTOGENhIGHT OPEN BOX OPERATORvRAcTTORUg
OOTdUPIIdUBURUhSAIKURUfNTIIMUhENTIbOeIRINGUgRbVcTARGETfHZcONdUONdV OVER MiWATTOeBbITH BOTTOM HALF BL
ACKrCONTOURED OUTLINErDIAGONAL CROSSHATCH FILLyHORIZONTAL FILLpLEFT HALF BLACKoOWER LEFT DIAGONAL HA
LF BLACKyRIGHT DIAGONAL HALF BLACKzgORTHOGONAL CROSSHATCH FILLzbRIGHT HALF BLACKqTOP HALF BLACKoUPPE
R LEFT DIAGONAL HALF BLACKtTO LOWER RIGHT FILLyRIGHT DIAGONAL HALF BLACKtTO LOWER LEFT FILLzfVERTICA
L FILLsYAADOcRUeUANfD ASTERISKiCJK UNIFIED IDEOGRAPH-4E00b9c2Dc8CcA4e518Dd21Dc4Dc72d3CCcF3d408c39d5B
6d8F0d91Ac29dB57dDE6dF8Ce624Bc53c95d307c55d599cB0d620d708b9dE80dF14e7121d51Fc33d981dA7AdD42e89E3dCA9
dD70e904Ad14DzLbOOLeDOT OPERATORmEIGHT KhFALLING DIAGONAL SLASHvIVE POINT ONEnOUR DOT PUNCTUATIONpKf
REEeHCbDRcI-RESfVcIDcKATAKANA DEcKOKOeSAkEYdLATIN CAPITAL LETTER AbBbCbDbEbFbGbHbIbJbKbLbMbNbObPbQbR
bSbTbUbVbWbXbYbZqSMALL LETTER DtOGICAL ANDdORiSSLESSiMINUSeVcNEWcGcOKbNE HUNDRED TWENTY PuPLUSdPVdRI
SING DIAGONAL SLASHvSALTIREgDbECOND SCREENlVEN POINT ONEoHVcIXTY PgMALL CIRCLElOScQUAREfScTHREE DgIM
ESeWENTY-TWO POINT TWOsO KfUHDcP WITH EXCLAMATION MARKyVODcScWCgT BLACK RIGHTWARDS ARROWzIDeS2b3bAcT
aADIUMeFF OF AESCULAPIUSlHERMESmMPED ENVELOPEnNDING PERSONmR AND CRESCENTmEQUALSgOF DAVIDhPERATORiWI
TH LEFT HALF BLACKpRIGHT HALF BLACKwT OF GUARDED AREAmHEADINGhPROTECTED AREAoSELECTED AREAmTRINGgTEX
TkTIONdUE OF LIBERTYpEAM LOCOMOTIVElING BOWLkNOGRAPHIC FULL STOPtTHOSCOPEjICK FIGUREa LEANING LEFTeR
IGHTnWITH ARMS RAISEDlDRESSvOCK CHARTiPWATCHhRAIGHT RULERgNESSiWBERRYhESS OUTLINED WHITE STARxICTLY
 EQUIVALENT TOsNG TERMINATORpSbUDIO MICROPHONEoFFED FLATBREADoPAdXcUBaSCRIPT EIGHTeQUALS SIGNlFIVEdO
UReLEFT PARENTHESISqMINUSfNINEeONEdPLUS SIGNjRIGHT PARENTHESISrSEVENeIXdTHREEeWOdZEROkET ABOVE RIGHT
WARDS ARROWqSUBSETePERSEToOFa ABOVE ALMOST EQUAL TOpEQUALS SIGNlNOT EQUAL TOmTILDE OPERATORuOR EQUAL
 TOa WITH DOT ABOVEzbWITH NOT EQUAL TOuWITH DOTdMULTIPLICATION SIGN BELOWzPLUS SIGN BELOWxTITUTEiCCE
EDSa ABOVE ALMOST EQUAL TOpEQUALS SIGNlNOT ALMOST EQUAL TOpEQUAL TOmSINGLE-LINE EQUALS SIGNlNOT EQUA
L TOzfBUT NOT EQUIVALENT TOvOR EQUAL TOfIVALENT TOqUNDER RELATIONvMMATION BOTTOMgTOPdWITH INTEGRALvN
a BEHIND CLOUDmWITH FACEkDANESE AVAGRAHAiCONSONANT SIGN PAMINGKALhNYAKRAeIKUfSANGAN MAcWAzbDIGIT EIG
HTfFIVEdOUReNINEeONEdSEVENeIXdTHREEeWOdZEROkLETTER AaEcBAbHAdCAcDAcEaUcFAbINAL KbMhGAcHAcIbJAcKAbHAd
LAbEUdMAcNAbGAcYAdObPAcQAcRAbEUdSAbYAdTAcUbVAcWAcXAcYAcZAjPUNCTUATION BINDU BA SATANGAkCAKRAfDA SATA
NGAkKA SATANGAkLEU SATANGAlPANGLONGhURNAMAhSURYAxSIGN PAMAAEHfNGLAYARfWISADgYECEKiVIRAMAlVOWEL SIGN
 PAMEPETfNAELAENGhEULEUNGhGHULUfOLONGfYUKUzFLOWERgRISEa OVER MOUNTAINStSET OVER BUILDINGStPERHEROeSC
RIPT EIGHTeQUALS SIGNlFIVEdOUReLATIN SMALL LETTER IbNtEFT PARENTHESISqMINUSfNINEeONEdPLUS SIGNjRIGHT
 PARENTHESISrSEVENeIXdTHREEeWOdZEROkET ABOVE LEFTWARDS ARROWpSUBSETePERSEToBESIDE AND JOINED BY DASH
 WITH SUBSETzfSUBSETnOFa ABOVE ALMOST EQUAL TOpEQUALS SIGNlNOT EQUAL TOmTILDE OPERATORuOR EQUAL TOa
 WITH DOT ABOVEzbWITH NOT EQUAL TOuPRECEDING SOLIDUSrWITH DOTdMULTIPLICATION SIGN BELOWzPLUS SIGN BE
LOWyVILLAINkRFACE INTEGRALmEReSHIcPENSION RAILWAYrWANbSH AMPERSAND ORNAMENTwIMMERfUNG DASHjYLOTI NAG
RI LETTER AbBHOcOcCHOcOcDDHOcOcHOcOcEbGHOcOcHOcIbJHOcOcKHOcOcLOcMOcNOcObPHOcOcRObROdSOcTHOcObTHOcOdU
iPOETRY MARK-1b2b3b4nSIGN ALTERNATE HASANTAqNUSVARAiDVISVARAiHASANTAmVOWEL SIGN AbEbIbOOcUxMBOL FOR
 ACKNOWLEDGElBACKSPACEiELLeCANCELeRRIAGE RETURNpDATA LINK ESCAPEpELETEa FORM TWOnVICE CONTROL FOUReO
NEdTHREEeWOsEND OF MEDIUMgTEXTdRANSMISSIONa BLOCKxQUIRYgSCAPEgFILE SEPARATORnORM FEEDjGROUP SEPARATO
RpHORIZONTAL TABULATIONvLINE FEEDjMARKS CHAPTERnNEGATIVE ACKNOWLEDGEsWLINEgULLeRECORD SEPARATORqSAMA
RITAN SOURCEpHIFT INcOUTiPACEeTART OF HEADINGhTEXTmUBSTITUTEa FORM TWOsYNCHRONOUS IDLEqTYPE A ELECTR
ONICSsUNIT SEPARATORoVERTICAL TABULATIONzcMETRYgNaAGOGUEgCHRONOUS IDLEoRIAC ABBREVIATION MARKrBARREK
HhCOLON SKEWED LEFTeRIGHTqNTRACTIONlDOTTED ZLAMA ANGULARhHORIZONTALxEND OF PARAGRAPHpSASA ABOVEfBELO
WlFEMININE DOTmHARKLEAN ASTERISCUSkMETOBELUSjOBELUSoBASA ABOVEfBELOWg-ESASA DOTTEDrORIZONTAL COLONqL
ETTER ALAPHfBETHeDALATHfOTLESS DALATH RISHtEbFINAL SEMKATHnGAMALa GARSHUNIoHEaTHeKAPHeLAMADHgMALAYAL
AM BHAdJAcLLAbLAeNGAcNAbNAdYAdRAcSSAdTTAmIMdNUNdPEaRSIAN BHETHfDHALATHhGHAMALoQAPHeREVERSED PEkISHeS
ADHEeEMKATHgHINdOGDIAN FEcKHAPHfZHAINmUPERSCRIPT ALAPHrTAWcETHa GARSHUNInWAWdYUDHa HEhZAINlMUSICfOBL
IQUE LINE ABOVEfBELOWsPTHAHA ABOVEfBELOWfDOTTEDnQUSHSHAYAjRBASA ABOVEfBELOWkUKKAKHAhWAHAfSUBLINEAR C
OLONa SKEWED LEFTeRIGHTsFULL STOPrPRALINEAR COLONa SKEWED LEFTrFULL STOPvTHREE DOTS ABOVEfBELOWpWO V
ERTICAL DOTS ABOVEfBELOWxZQAPHA ABOVEfBELOWfDOTTEDqNGEhT-REXdSHIRTgABaLE TENNIS PADDLE AND BALLzbCOc
G AMPERSANDiPOSTROPHEjSTERISKiCIRCUMFLEX ACCENTqOLONdMMAbERCIAL ATnDIGIT EIGHTfFIVEdOUReNINEeONEdSEV
ENeIXdTHREEeWOdZEROjOLLAR SIGNlEQUALS SIGNkXCLAMATION MARKqFULL STOPjGRAVE ACCENTkEATER-THAN SIGNrHY
PHEN-MINUSmLATIN CAPITAL LETTER AbBbCbDbEbFbGbHbIbJbKbLbMbNbObPbQbRbSbTbUbVbWbXbYbZqSMALL LETTER AbB
bCbDbEbFbGbHbIbJbKbLbMbNbObPbQbRbSbTbUbVbWbXbYbZtEFT CURLY BRACKETnPARENTHESISlSQUARE BRACKETrSS-THA
N SIGNnOW LINEiNUMBER SIGNlPERCENT SIGNlLUS SIGNjQUESTION MARKlOTATION MARKoREVERSE SOLIDUSoIGHT CUR
LY BRACKETnPARENTHESISlSQUARE BRACKETuSEMICOLONiOLIDUSgPACEfTILDEfVERTICAL LINEoALOG LETTER AaRCHAIC
 RAkBAcDAcGAcHAcIbKAcLAcMAcNAbGAdPAcRAcSAcTAcUbWAcYAjSIGN PAMUDPODiVIRAMAlVOWEL SIGN IbUrBANWA LETTE
R AbBAcDAcGAcIbKAcLAcMAcNAbGAdPAcSAcTAcUbWAcYAjVOWEL SIGN IbUtI LE LETTER AaIbUEdEaEbHcFAcHAcIbKAbHA
dLAcMAcNAbGAdOaOcPAbHAdQAcSAcTAbHAcONE-2b3b4b5b6fSAbHAeUaEcVAcXAcYAmTHAM COMBINING CRYPTOGRAMMIC DOT
zNSONANT SIGN BAcFINAL NGAjHIGH RATHA OR LOW PAuLA TANG LAIkOW PAgMAbEDIAL LAcRAjSArHORA DIGIT EIGHT
fFIVEdOUReNINEeONEdSEVENeIXdTHREEeWOdZEROpLETTER AbBAcDAcEEcGREAT SAiHIGH CAbHAdFAcHAcKAbHAcXAdPAbHA
dRATHAfSAbHAcSAdTAbHAdYAhIaIcLAaEcLAcOW CAbHAdFAcHAcKAbHAcXAdPAbHAdRATHAfSAcTAbHAdYAfUEdMAcNAbGAcYAd
OOcRAaNAcTAdUEdUaUcWAjSIGN CAANGfDOKMAIgHANGdOYdKAANaKUUgEOWdHUEN TONE-3b4b5h-LUE KARANpMAI KANGa LA
IiSAMdYAMOKjRA HAAMgEVERSED ROTATED RANAvSAKOTdTKAANaKUUiWANfTONE-1b2gWIANGaWAAKoTHAM DIGIT EIGHTfFI
VEdOUReNINEeONEdSEVENeIXdTHREEeWOdZEROpVOWEL SIGN AaAbEbIcEbIaIcMAI SAThOaA ABOVEfBELOWhObYcTALL AAg
HAM AIhUaEbUaEtVIET LETTER HIGH BOcCHOcOcDOcFOcGOcHOcKHHOcOcOcLOcMOcNGOcObYOdObPHOcOcROcSOcTHOcOcVOc
YOhLOW BOcCHOcOcDOcFOcGOcHOcKHHOcOcOcLOcMOcNGOcObYOdObPHOcOcROcSOcTHOcOcVOcYOnMAI KANGdHITiSYMBOL HO
 HOIgKOI KOIfNdNUENGfSAMkTONE MAI EKcNUENGfSONGeTHOmVOWEL AAbMbNbUEcYcEbIaAcObUaAbEaAqKEOUT BOXiRI A
BBREVIATION SIGNrDIGIT EIGHTfFIVEdOUReNINEeONEdSEVENeIXdTHREEeWOdZEROkLETTER AaAbIbRCHAIC KHAkUcBAbH
AdCAbHAdDAbDAbHAdHAdEbGAbHAdHAcIaIcJAbHAdKAbHAdLAcMAcNAbGAcNAcYAdObPAbHAdRAbRAdSAbHAdTAbHAcTAbHAeUaU
cVAcYAjSIGN ANUSVARAiNUKTAfVIRAMAeSARGAmVOWEL SIGN AAbIbUcEbIaIcObUaUrLLY MARK FIVEeONEmMALEdIL AND
 ODD SIGNlS ABOVE SIGNmU LENGTH MARKoCREDIT SIGNkURRENT SIGNmDAY SIGNhEBIT SIGNjIGIT EIGHTfFIVEdOURe
NINEeONEdSEVENeIXdTHREEeWOdZEROjRY CULTIVATION SIGNuFRACTION DOWNSCALING FACTOR KIIZHyONE EIGHTHbIET
HjFIFTHeORTIETHiHALF-1b2gONE-HUNDRED-AND-SIXTIETHyQUARTERhSIXTEENTH-1b2hY-FOURTHmTENTHeHIRTY-SECONDl
REE-HUNDRED-AND-TWENTIETHzbWENTIETHnTHREE EIGHTIETHSkQUARTERSiSIXTEENTHSgY-FOURTHSnTWENTIETHSzIN POS
SESSION SIGNsLAND SIGNiETTER AaAbIbUcCAcEaEcHAcIaIcJAcKAcLAbLAbLAeMAcNAbGAcNAbNAdYAdOaOcPAcRAbRAdSAb
HAcSAdTAbTAdUaUcVAcYAjMONTH SIGNkNUMBER ONE HUNDREDhTHOUSANDmSIGNeTENkOMcPUNCTUATION END OF TEXTxRUP
EE SIGNkSALT PAN SIGNmIGN AAZHAAKKUiNUSVARAiCEVITUgKAACUeURUNIeZHIfMUKKURUNIhTHALIYAhUVUZHAKKUlNELdP
AARAMeNAMdTHAKKUhONdUZHAKKUhVAKAIYARAAiRAAKANhELIdIRAMAeSARGAlPENT SIGNjTARTING FROM SIGNsTOTAL SIGN
jRADITIONAL CREDIT SIGNlNUMBER SIGNxVOWEL SIGN AAbIbUcEaEcIaIcOaOcUaUnWET CULTIVATION SIGNuYEAR SIGN
nNABATA TREEkGERINEfSA DIGIT EIGHTfFIVEdOUReNINEeONEdSEVENeIXdTHREEeWOdZEROkLETTER ACbQbWCbQbXbZcXbZ
cBAcCAbHAdDAbHAdECbQbXbZcFAbINAL NGiGAbHAdHAbTAbTAeICbQbXbZcKAbHAdLAbONG UEXiMAbCbQbXbZcNAbGAcHAcYAd
OCbQbXbZcPAbHAdRAcSAbHAbORT AWXdUEZjTAbHAcSAdUCbECbQbXbZcICbQbUCbQbXbZcXbZcQbXbZcVCbQbXbZcWAcXAcYAcZ
AmUT COMPONENT-001b2b3b4b5b6b7b8b9c10b1b2b3b4b5b6b7b8b9c20b1b2b3b4b5b6b7b8b9c30b1b2b3b4b5b6b7b8b9c40
b1b2b3b4b5b6b7b8b9c50b1b2b3b4b5b6b7b8b9c60b1b2b3b4b5b6b7b8b9c70b1b2b3b4b5b6b7b8b9c80b1b2b3b4b5b6b7b8
b9c90b1b2b3b4b5b6b7b8b9d100b1b2b3b4b5b6b7b8b9c10b1b2b3b4b5b6b7b8b9c20b1b2b3b4b5b6b7b8b9c30b1b2b3b4b5
b6b7b8b9c40b1b2b3b4b5b6b7b8b9c50b1b2b3b4b5b6b7b8b9c60b1b2b3b4b5b6b7b8b9c70b1b2b3b4b5b6b7b8b9c80b1b2b
3b4b5b6b7b8b9c90b1b2b3b4b5b6b7b8b9d200b1b2b3b4b5b6b7b8b9c10b1b2b3b4b5b6b7b8b9c20b1b2b3b4b5b6b7b8b9c3
0b1b2b3b4b5b6b7b8b9c40b1b2b3b4b5b6b7b8b9c50b1b2b3b4b5b6b7b8b9c60b1b2b3b4b5b6b7b8b9c70b1b2b3b4b5b6b7b
8b9c80b1b2b3b4b5b6b7b8b9c90b1b2b3b4b5b6b7b8b9d300b1b2b3b4b5b6b7b8b9c10b1b2b3b4b5b6b7b8b9c20b1b2b3b4b
5b6b7b8b9c30b1b2b3b4b5b6b7b8b9c40b1b2b3b4b5b6b7b8b9c50b1b2b3b4b5b6b7b8b9c60b1b2b3b4b5b6b7b8b9c70b1b2
b3b4b5b6b7b8b9c80b1b2b3b4b5b6b7b8b9c90b1b2b3b4b5b6b7b8b9d400b1b2b3b4b5b6b7b8b9c10b1b2b3b4b5b6b7b8b9c
20b1b2b3b4b5b6b7b8b9c30b1b2b3b4b5b6b7b8b9c40b1b2b3b4b5b6b7b8b9c50b1b2b3b4b5b6b7b8b9c60b1b2b3b4b5b6b7
b8b9c70b1b2b3b4b5b6b7b8b9c80b1b2b3b4b5b6b7b8b9c90b1b2b3b4b5b6b7b8b9d500b1b2b3b4b5b6b7b8b9c10b1b2b3b4
b5b6b7b8b9c20b1b2b3b4b5b6b7b8b9c30b1b2b3b4b5b6b7b8b9c40b1b2b3b4b5b6b7b8b9c50b1b2b3b4b5b6b7b8b9c60b1b
2b3b4b5b6b7b8b9c70b1b2b3b4b5b6b7b8b9c80b1b2b3b4b5b6b7b8b9c90b1b2b3b4b5b6b7b8b9d600b1b2b3b4b5b6b7b8b9
c10b1b2b3b4b5b6b7b8b9c20b1b2b3b4b5b6b7b8b9c30b1b2b3b4b5b6b7b8b9c40b1b2b3b4b5b6b7b8b9c50b1b2b3b4b5b6b
7b8b9c60b1b2b3b4b5b6b7b8b9c70b1b2b3b4b5b6b7b8b9c80b1b2b3b4b5b6b7b8b9c90b1b2b3b4b5b6b7b8b9d700b1b2b3b
4b5b6b7b8b9c10b1b2b3b4b5b6b7b8b9c20b1b2b3b4b5b6b7b8b9c30b1b2b3b4b5b6b7b8b9c40b1b2b3b4b5b6b7b8b9c50b1
b2b3b4b5b6b7b8b9c60b1b2b3b4b5b6b7b8nITERATION MARKtPE CARTRIDGEjDRIVEiURUSeXIdEACUP WITHOUT HANDLEsP
OTdR-OFF CALENDARnDROP-BARBED RIGHTWARDS ARROWxSPOKED ASTERISKwDDY BEARiLEPHONE LOCATION SIGNnON TOP
 OF MODEMpRECEIVERa WITH PAGEpORDERiSIGNkSCOPEfVISIONhUGU AI LENGTH MARKoDIGIT EIGHTfFIVEdOUReNINEeO
NEdSEVENeIXdTHREEeWOdZEROkFRACTION DIGIT ONE FOR EVEN POWERS OF FOURtODD POWERS OF FOURzbTHREE FOR E
VEN POWERS OF FOURtODD POWERS OF FOURzcWO FOR EVEN POWERS OF FOURtODD POWERS OF FOURzbZERO FOR ODD P
OWERS OF FOURzrLENGTH MARKjTTER AaAbIbUcBAbHAdCAbHAdDAbDAbHAdHAcZAdEaEcGAbHAdHAcIaIcJAbHAdKAbHAdLAbL
AbLAeMAcNAaKAARA POLLUmGAcNAcYAdOaOcPAbHAdRAbRAbRAeSAbHAcSAdTAbHAcSAcTAbHAeUaUcVAbOCALIC LaLcRaRkYAj
SIGN ANUSVARAhVAGRAHAiCANDRABINDUkOMBINING ANUSVARA ABOVEoCANDRABINDU ABOVEzcNUKTAfSIDDHAMhTUUMUfVIR
AMAeSARGAmVOWEL SIGN AAbIbUcEaEcIaIcOaOcUaUcVOCALIC LaLcRaRzbNGE SIGNhNIS RACQUET AND BALLuTcST TUBE
hTRAGRAM FOR ACCUMULATIONlDVANCEgGGRAVATIONkSCENTgBARRIERgOLD RESOLUTIONoRANCHING OUTnCENTREfHANGEfL
OSED MOUTHhNESSfUREgOMPLETIONfIANCEiNSTANCYgTACTdENTIONgRARIETYlDARKENINGiECISIVENESSkFECTIVENESS OR
 DISTORTIONzPARTUREiIFFICULTIESkMINISHMENTjMINGfVERGENCEjOUBTeUTIESgEASEdMBELLISHMENTmNCOUNTERSiDEAV
OURhLARGEMENTkTERNITYhXHAUSTIONkFAILUREgLIGHTfOLLOWINGhSTERINGiULL CIRCLEhNESSiGATHERINGa INlOING TO
 MEETmREATNESSiUARDEDNESSlHARDNESShOLDING BACKmINCREASEgNERfJOYdKEEPING SMALLmINSHIPhLABOURINGhW OR
 MODELlEGIONgMASSINGgEASUREgIREDfON THE VERGElPPOSITIONkPACKINGfTTERNgENETRATIONkURITYgREACHdLEASEfS
IDENCEfSTANCEhPONSEhITUALgSEVERANCEiINKINGgTOPPAGEfVEdRENGTHiUNITYfVASTNESS OR WASTINGtWAITINGfTCHfY
OUTHFULNESSzHAANA AABAAFILIiBAFILIhEBEFILIgEBEEFILIiYBEYFILIjIBIFILIhLETTER AINUdLIFUfBAAdCHAVIYANIj
DAADHUeVIYANIhHAALUgFAAFUfGAAFUeHAINUfNAVIYANIjHAAcHAAeJAVIYANIiKAAFUeHAAeLAAMUeHAVIYANIjMEEMUfNAAcO
ONUfPAVIYANIiQAAFUfRAAdSAADHUfEENUeHAVIYANIhEENUgTAVIYANIhHAAaLUfObTAAeVAAVUfWAAVUfYAAdZAAbVIYANIhOj
OABOAFILIiBOFILIgOBOOFILIjSUKUNfUBUFILIlI CHARACTER ANGKHANKHUkBO BAIMAIjCHO CHANaGdINGdOEiDO CHADAf
DEKgFO FAaNeNGMANhHO HIPdNOKHUKjKHO KHAIcONcUATdWAIfRAKHANGiMUTfO KAIgLAKKHANGYAOkO CHULAfLINGgUcMAI
 CHATTAWAiEKcHAN-AKATiTHOcRIeTAIKHUgYAMOKhO MAfNGO NGUgIKHAHIThO NENcUfO ANGfPAIYANNOIiHINTHUfO PHAN
cUNGfSAMPHAOkO PLAgRO RUAfUcSARA AaAbEbI MAIMALAIeUANjMcEbIaIcObUaEaEcUgO RUSIeSALAdObUAgTHANTHAKHAT
jO NANGMONTHOkPHUTHAOhTHAHANdNcONGdUNGiO PATAKfTAOgWO WAENhYAMAKKANhO YAKcINGqURRENCY SYMBOL BAHTuDI
GIT EIGHTfFIVEdOUReNINEeONEdSEVENeIXdTHREEeWOdZEROnERE DOES NOT EXISToEXISTShFOREfMODYNAMIChMETERjIN
 GREEK CROSSlSALTIREgPACEgKING FACEkRD PLACE MEDALpONG SANDALjUGHT BALLOONnREE BUTTON MOUSEmCONSECUT
IVE EQUALS SIGNSyDIMENSIONAL ANGLEqOT PUNCTUATIONpLEFTWARDS ARROWSpINES CONVERGING LEFTeRIGHTwNETWOR
KED COMPUTERStPOINTED BLACK STARsRAYS ABOVEfBELOWfLEFTeRIGHTjIGHTWARDS ARROWSrSPEECH BUBBLESp-D BOTT
OM-LIGHTED RIGHTWARDS ARROWHEADzkLEFT-LIGHTED DOWNWARDS EQUILATERAL ARROWHEADztRIGHT-LIGHTED UPWARDS
 EQUILATERAL ARROWHEADzsTOP-LIGHTED LEFTWARDS EQUILATERAL ARROWHEADzgRIGHTWARDS ARROWHEADjEQUILATERA
L ARROWHEADzvEM DASHhPER-EM SPACEqUMBS DOWN SIGNjUP SIGNlNDER CLOUD AND RAINpSTORMlIBETAN ASTROLOGIC
AL SIGN -KHYUD PAjSDONG TSHUGSlGRA GCAN -CHAR RTAGSzoCANTILLATION SIGN CANG TE-UjHEAVY BEATkLIGHT BE
ATkSBUB -CHALzdDIGIT EIGHTfFIVEdOUReHALF EIGHTfFIVEdOUReNINEeONEdSEVENeIXdTHREEeWOdZEROjNINEeONEdSEV
ENeIXdTHREEeWOdZEROkKU RU KHAa BZHI MIG CANwLETTER -AcAbBAbHAdCAbHAdDAbDAbHAdHAcZAbHAeFIXED-FORM RAn
GAbHAdHAcJAcKAbHAcKAcSSAeLAcMAcNAbGAcNAcYAdPAbHAdRAbRAdSAbHAcSAdTAbHAcSAbHAdTAbHAeWAcYAcZAbHAjOGOTYP
E SIGN CHAD RTAGSkLHAG RTAGSyMARK ANG KHANG GYAScONoBKA- SHOG GI MGO RGYANmYIG MGOqSDUS RTAGSjKA- SH
OG GI MGO RGYANuUR YIG MGOnCARET -DZUD RTAGS BZHI MIG CANmME LONG CANxYIG MGO PHUR SHAD MAzHE MGOgLO
SING BRDA RNYING YIG MGO SGAB MAzcYIG MGO SGAB MAxDELIMITER TSHEG BSTARvGTER TSHEGfYIG MGO -UM GTER
 TSHEG MAnRNAM BCAD MAqTRUNCATED AxUG RTAGS GYAScONoHALANTAhINITIAL BRDA RNYING YIG MGO MDUN MAzcYIG
 MGO MDUN MAvTERSYLLABIC TSHEGtLEADING MCHAN RTAGStMNYAM YIG GI MGO RGYANwNGAS BZUNG NYI ZLAhSGOR RT
AGSuYIS SHADeTSHEGa SHADpPALUTAgRGYA GRAM SHADnIN CHEN SPUNGS SHADuSBRUL SHADjHADeTRAILING MCHAN RTA
GStSA -PHRUhHEG SHADkYIG MGO TSHEG SHAD MAzbSIGN GRU CAN RGYINGSlMED RGYINGSpINVERTED MCHU CANrLCE T
SA CANjI RTAGSjMAR TSHESiCHU CANiNYI ZLA NAA DAoRDEL DKAR GCIGdNYISeSUMeRDEL NAGnNAG GCIGdNYISeSUMeR
DEL DKARrJES SU NGA ROnNAM BCADjSNA LDANiYANG RTAGSiR TSHESnUBJOINED LETTER -AcAbBAbHAdCAbHAdDAbDAbH
AdHAcZAbHAeFIXED-FORM RAcWAcYAnGAbHAdHAcJAcKAbHAcSSAeLAcMAcNAbGAcNAcYAdPAbHAdRAcSAbHAcSAdTAbHAcSAbHA
dTAbHAeWAcYAcZAbHAkSIGN INVERTED MCHU CANrLCE TSA CANlMCHU CANwYLLABLE OMjMBOL DRIL BUhNOR BUa BZHI
 -KHYILlGSUM -KHYILlNYIS -KHYILsPADMA GDANjHUR PAhRDO RJEa RGYA GRAMyVOWEL SIGN AAcEaEcIaIcOaOcREVER
SED IaIlUaUcVOCALIC LaLcRaRzcCKETeE OVER INFINITYpFINAGH CONSONANT JOINERqLETTER AHAGGAR YAZHlYER YA
GHjBERBER ACADEMY YAHbJsTAWELLEMET YAZnUAREG YAGHbNcHbKaHcNGcQbZHlYAaAbBaHcCHcDaDaHcHcFbGaHaHdHaHcJb
KaHaHdLbMbNbPbQbRaRcSaHbScTaHbTcVbWbYbZaHbZdEaYcIbObUjMODIFIER LETTER LABIALIZATION MARKzjSEPARATOR
 MARKvGERa FACEhHT TRIFOLIATE SNOWFLAKEyLDEa OPERATORa ABOVE LEFTWARDS ARROWpRIGHTWARDS ARROWwWITH D
OT ABOVEjRISING DOTSzWITH DOT ABOVEfBELOWjRING ABOVEtMER CLOCKhS WITH LEFT HALF BLACKpRIGHT HALF BLA
CKzNYa TWO DOTS OVER ONE DOT PUNCTUATIONzlRED FACEhHUTA ABBREVIATION SIGNqNJIeDIGIT EIGHTfFIVEdOUReN
INEeONEdSEVENeIXdTHREEeWOdZEROkGVANGfLETTER AaAbIbUcBAbHAdCAbHAdDAbDAbHAdHAdEbGAbHAdHAcIaIcJAbHAdKAb
HAdLAcMAcNAbGAcNAcYAdObPAbHAdRAcSAbHAcSAdTAbHAcTAbHAeUaUcVAbOCALIC LaLcRaRkYAjOMcSIGN ANUSVARAhVAGRA
HAiCANDRABINDUlNUKTAfVIRAMAeSARGAmVOWEL SIGN AAbIbUcEbIaIcObSHORT EbOhUaUcVOCALIC LaLcRaRzbONIAN SIG
N CAPITAL ETkETpOILETeKYO TOWERjMATOeNGUEeOLBOXeTHaBRUSHiP ARC ANTICLOCKWISE ARROWa WITH PLUSzeCLOCK
WISE ARROW WITH MINUSzfCURLY BRACKETnHALF BLACK CIRCLEmINTEGRALiLEFT PARENTHESISqRIGHT PARENTHESISrS
ECTION SIGNpTdLEFT CORNERfROPeHALF BRACKETrPARENTHESISlRIGHT CORNERfROPeHALF BRACKETsSQUARE BRACKETo
TORTOISE SHELL BRACKETwWITH UPWARDS ARROW ABOVEzbRTOISE SHELL BRACKETED CJK UNIFIED IDEOGRAPH-4E09c8
Ce52DDdB89e6253d557d72Ce70B9d6D7zbLATIN CAPITAL LETTER SzuTAL RUNOUTjO LETTER AaEcBAbREATHY AEcEaOcI
aUkCHAdDAcEaOcGAcHAcIaUcJAcKAcLAcMAcNAbGAdObPAcRAcSAcTAcUbWAcYAjSIGN RISING TONEuRACKBALLfTOReDE MAR
K SIGNmINcMa CARfNSPLUTOfVERSAL INTERSECTIONwIANGLE WITH DOT ABOVEjROUNDED CORNERSpSERIFS AT BOTTOMq
UNDERBARo-HEADED RIGHTWARDS ARROWzbULAR BULLETgFLAG ON POSTmRULERnCOLONfDENT EMBLEMlGRAM FOR EARTHfF
IREeHEAVENgLAKEeMOUNTAINiTHUNDERhWATEReINDnPLE COLON OPERATORoDAGGERgHORIZONTAL BAR WITH DOUBLE VERT
ICAL STROKEwTRIPLE VERTICAL STROKEzrINTEGRALiNESTED GREATER-THANmLESS-THANqPLUSdRIMEfSOLIDUS BINARY
 RELATIONxTILDEfVERTICAL BAR BINARY RELATIONpDELIMITERjRIGHT TURNSTILEpWITH HORIZONTAL STROKEzpOLLaE
YBUShPHYcICAL DRINKfFISHlUEa LIGHT MOON ARTArMPETgUGRIK SIGNjLIPdMBLER GLASSlRKEYcISH LIRA SIGNoNED
 AMPERSANDiNGLEfBLACK PENTAGONiSHOGI PIECErCAPITAL FiOMMAfDAGGERfIGIT THREEeWOjGREEK SMALL LETTER IO
TAxNORTH EAST POINTING LEAFsWEST POINTING LEAFwT SIGNiOK HAND SIGNmSANS-SERIF CAPITAL GbLbYtEMICOLON
iMALL FgOUTH EAST POINTING LEAFsWEST POINTING LEAFyWHITE SHOGI PIECEvTLEfWELVE POINTED BLACK STARxIS
TED RIGHTWARDS ARROWSxO ASTERISKS ALIGNED VERTICALLYzdBUTTON MOUSEmCONSECUTIVE EQUALS SIGNSyDOT LEAD
ERgPUNCTUATIONmS OVER ONE DOT PUNCTUATIONzeHEARTSgINTERSECTING LOGICAL ANDdORxJOINED SQUARESoLOGICAL
 AND OPERATORmOR OPERATORtMEN HOLDING HANDSrSPEECH BUBBLESoWOMEN HOLDING HANDSu-EM DASHlUGARITIC LET
TER AINcLPAeBETAeDELTAeHALeGAMLAeHAINfHOaTAeIbKAFcHAdLAMDAfMEMdNUNdPUcQOPAeRASHAfSADEcMKAeHINdSUdTET
cHANNAfOcUbWOcYODdZETAdUjWORD DIVIDERuMBRELLAa ON GROUNDjWITH RAIN DROPSxNAMUSED FACElCERTAINTY SIGN
oDERTIEfO SYMBOLjICORN FACEjONa ABOVE BAR ABOVE INTERSECTIONwINTERSECTIONsBESIDE AND JOINED WITH UNI
ONzdWITH LOGICAL ORkMINUS SIGNkOVERBARpT SEPARATORkED SYMBOLkVERSAL RECYCLING SYMBOLyMARRIED PARTNER
SHIP SYMBOLzcP ARROW THROUGH CIRCLEpHEADa BETWEEN TWO HORIZONTAL BARSzcIN A RECTANGLE BOXzdBARB LEFT
 DOWN BARB LEFT HARPOONmRIGHT HARPOONzdRIGHT DOWN BARB LEFT HARPOONmRIGHT HARPOONzjDOWN ARROWa WITH
 BASEpBLACK ARROWlDOUBLE ARROWmSANS-SERIF ARROWqTRIANGLE-HEADED ARROWvWHITE ARROWqFISH TAILjRIGHT DI
AGONAL ELLIPSISxTACKa WITH CIRCLE ABOVEx-POINTING AIRPLANEiMILITARY AIRPLANErRED TRIANGLEmSMALL AIRP
LANEiRED TRIANGLEsTRIANGLE WITH LEFT HALF BLACKpRIGHT HALF BLACKzpPER AND LEFT AND LOWER TRIANGULAR
 THREE QUARTERS BLOCKzuOWER ONE EIGHTH BLOCKqTRIANGULAR HALF BLOCKzcRIGHT AND LOWER TRIANGULAR THREE
 QUARTERS BLOCKzzbBLADE SCISSORSoFIVE EIGHTHS BLOCKsHALF BLOCKa AND LOWER HALF INVERSE MEDIUM SHADEz
qCIRCLEgINVERSE MEDIUM SHADE AND LOWER HALF BLOCKziWHITE CIRCLEuMEDIUM SHADErLEFT BLOCK DIAGONAL LOW
ER CENTRE TO LOWER MIDDLE RIGHTsUPPER MIDDLE RIGHTmRIGHTvLEFT TO LOWER MIDDLE RIGHTsUPPER CENTREgMID
DLE RIGHTzbMIDDLE LEFT TO UPPER CENTREgMIDDLE RIGHTmRIGHTzhUPPER MIDDLE LEFT TO UPPER CENTREgRIGHTzw
CORNER WITH DOTpOR LOWER RIGHT CURLY BRACKET SECTIONzlQUADRANT CIRCULAR ARCvTO LOWER RIGHT FILLsRIAN
GLEcULAR MEDIUM SHADEzdONE EIGHTH BLOCKmQUARTER BLOCKrRIGHT BLOCK DIAGONAL LOWER MIDDLE LEFT TO LOWE
R CENTREgRIGHTzhUPPER CENTRE TO LOWER MIDDLE RIGHTmRIGHTlUPPER MIDDLE RIGHTzdLEFT TO LOWER CENTREgMI
DDLE RIGHTsUPPER MIDDLE RIGHTzbMIDDLE LEFT TO LOWER CENTREgMIDDLE RIGHTmRIGHTzwDROP-SHADOWED WHITE S
QUAREzbOR LOWER LEFT CURLY BRACKET SECTIONzkPENCILgQUADRANT CIRCULAR ARCvSHADOWED WHITE CIRCLEgSQUAR
EvTO LOWER LEFT FILLrRIANGLEcULAR MEDIUM SHADEzeSEVEN EIGHTHS BLOCKtTHREE EIGHTHS BLOCKnQUARTERS BLO
CKtRIANGULAR ONE QUARTER BLOCKzhSIDE-DOWN FACEoWARDS ANCORAfRROWa AND RIGHT ONE EIGHTH BLOCKzbFROM B
ARiLEFTWARDS OF DOWNWARDS ARROWzdTO BARgWITH DOUBLE STROKEnEQUILATERAL ARROWHEADvHORIZONTAL STROKErL
ARGE TRIANGLE ARROWHEADyMEDIUM TRIANGLE ARROWHEADzNOTCHED TAILmSMALL EQUILATERAL ARROWHEADvTRIANGLE
 ARROWHEADyTIP LEFTWARDSjRIGHTWARDSzBLACK ARROWfCIRCLED WHITE ARROWzCOMPRESSED ARROWqDASHED ARROWlOU
BLE ARROWmFINGER-POST ARROWrHARPOON WITH BARB LEFT BESIDE DOWNWARDS HARPOON WITH BARB RIGHTziUPWARDS
 HARPOON WITH BARB RIGHTznFROM BARiTO BARhWARDSjRIGHT FROM BARiTO BARhWARDSzcEAVY ARROWfCOMPRESSED A
RROWwPAIRED ARROWSnQUADRUPLE ARROWpROCKETgSANS-SERIF ARROWpQUARED ARROWnTRIANGLE ARROWHEADk-HEADED A
RROWa LEFTWARDS OF DOWNWARDS TRIANGLE-HEADED ARROWztTO BARgWITH BOLD SHAFTkDOUBLE HORIZONTAL STROKEy
HEAVY SHAFTlLONG TIP LEFTWARDSjRIGHTWARDStMEDIUM SHAFTmNARROW SHAFTmVERY HEAVY SHAFTzcDASHED ARROWmP
AIRED ARROWSzbPLE ARROWlWO HEADED ARROWn-HEADED ARROW FROM SMALL CIRCLErWITH TRIANGLE ARROWHEADSzqWH
ITE ARROWa FROM BARa WITH HORIZONTAL BARzdON PEDESTALa WITH HORIZONTAL BARoVERTICAL BARzeWITHIN TRIA
NGLE ARROWHEADzgDOUBLE ARROWa ON PEDESTALzmRANUSfScVAI COMMAfDIGIT EIGHTfFIVEdOUReNINEeONEdSEVENeIXd
THREEeWOdZEROkFULL STOPjQUESTION MARKnSYLLABLE AaNcBAbEaEcHAbEaEcIbOaOcUcIbOaOcUcCAbEaEcIbOaOcUcDAbE
aEcHAbEaEcHAbEaEcIbOaOcUcIbOaOcUcIbOaOcUcEaEaNcNcFAbEaEcIbOaOcUcGAbBAbEaEbNcIbOaNbOcUcEaEbNcIbOaOcUc
HAaNcEaEbNcIaNcOaNbOcUaNdIaNcJAbEaEcIbOaOcUcKAaNcEaEcIbOaOcPAaNcEaEbNcIbOaOcUcUcLAbEaEbNGTHENERjIbOa
OcUcMAbBAbEaEcIbOaOcUcEaEcGBAbEaEcIbOaOcUdIbOaOcUcNAbDAbEaEcIbOaLE DOcFAcKAcMAcSOOgOcUcEaEcGaANcENcG
AbEaEbNcIbOaOcUcONdIbJAbEaEcIbOaOcUcOaOcUbYAbEaEcIbOaOcUdOaNbOaNdPAbEaEcIbOaOcUcRAbEaEcIbOaOcUcSAbEa
EcHAbEaEcIbOaOcUcIbOaOcUcTAbEaEcHAbEaEcIbOaOcUcIbOaOcUcUaNcVAbEaEcIbOaOcUcWAaNcEaEaNcNcIaNcOaNbOaNdU
aNdYAbEaEcIbOaOcUcZAbEaEcHAbEaEcIbOaOcUcIbOaOcUjMBOL BANGeDANGdO-OcONGfFAAcEENGfJONGeKEENGeUNGeNIIdT
AAcINGdONGnMPIREfRIATION SELECTOR-1a0a0b1b2b3b4b5b6b7b8b9c1a0b1b2b3b4b5b6b7b8b9c2a0b1b2b3b4b5b6b7b8b
9c3a0b1b2b3b4b5b6b7b8b9c4a0b1b2b3b4b5b6b7b8b9c5a0b1b2b3b4b5b6b7b8b9c6a0b1b2b3b4b5b6b7b8b9c7a0b1b2b3b
4b5b6b7b8b9c8a0b1b2b3b4b5b6b7b8b9c9a0b1b2b3b4b5b6b7b8b9d2a0a0b1b2b3b4b5b6b7b8b9c1a0b1b2b3b4b5b6b7b8b
9c2a0b1b2b3b4b5b6b7b8b9c3a0b1b2b3b4b5b6b7b8b9c4a0b1b2b3b4b5b6b7b8b9c5a0b1b2b3b4b5b6c6b7b8b9c3a0b1b2b
3b4b5b6b7b8b9c4a0b1b2b3b4b5b6b7b8b9c5a0b1b2b3b4b5b6b7b8b9c6a0b1b2b3b4b5b6b7b8b9c7a0b1b2b3b4b5b6b7b8b
9c8a0b1b2b3b4b5b6b7b8b9c9a0b1b2b3b4b5b6b7b8b9uECTOR OR CROSS PRODUCTvDIC SIGN ANUSVARA ANTARGOMUKHAm
BAHIRGOMUKHAmUBHAYATO MUKHAoVAMAGOMUKHAa WITH TAILzeRDHAVISARGAlTIKRAMAiDOUBLE ANUSVARA ANTARGOMUKHA
zdHEXIFORM LONG ANUSVARAwJIHVAMULIYAlLONG ANUSVARAnNIHSHVASAjREVERSED VISARGA ANUDATTAiUDATTAwOTATED
 ARDHAVISARGAtTHANG LONG ANUSVARAuTIRYAKgUPADHMANIYAlVISARGA ANUDATTAa WITH TAILsSVARITAhUDATTAa WIT
H TAILyYAJURVEDIC MIDLINE SVARITAzgTONE ATHARVAVEDIC INDEPENDENT SVARITAzhCANDRA ABOVEfBELOWmDOT BEL
OWhUBLE RING ABOVEkSVARITAoKARSHANAgTHAKA ANUDATTAqPRENKHAhRIGVEDIC KASHMIRI INDEPENDENT SVARITAzkNG
 ABOVEkSHARAfTHREE DOTS BELOWpRIPLE SVARITAnWO DOTS BELOWoYAJURVEDIC AGGRAVATED INDEPENDENT SVARITAz
fINDEPENDENT SVARITAtKATHAKA INDEPENDENT SVARITAa SCHROEDERzzhRSICLEfTICAL BAR BESIDE RIGHT TRIANGLE
vDOUBLE LEFT TURNSTILEvTRIPLE RIGHT TURNSTILEwWITH HORIZONTAL STROKEzbELLIPSISiFOUR DOTSjIDEOGRAPHIC
 ITERATION MARKzbKANA REPEAT MARKa LOWER HALFkUPPER HALFpWITH VOICED SOUND MARKa UPPER HALFzuLINEa E
XTENSIONjWITH CIRCLE ABOVEfBELOWmMIDDLE DOTuMALE WITH STROKE SIGNvONE EIGHTH BLOCK-2b3b4b5b6b7sSIX D
OTSiTAB KEYeULATIONa SETnILDEeRAFFIC LIGHTnZIGZAG LINErY BOLD GREEK CROSSqHEAVY EIGHT POINTED BLACK
 STARsSPOKED ASTERISKvFIVE SPOKED ASTERISKuGREEK CROSSlREVERSE SOLIDUSpSALTIREgIX SPOKED ASTERISKsOL
IDUShWHITE CIRCLEgSQUAREsMUCH GREATER-THANmLESS-THANrSTAeIBRATION MODEmCTORY HANDkDEO CAMERAgGAMEfCA
SSETTElETNAMESE ALTERNATE READING MARK CAcNHAYzkWDATA SQUAREnOLINeRGOdTHKUQI CAPITAL LETTER AbBBEcEc
CEbHEdDEbHEdEaIcFEcGAcHAbHAdIaJEdJEcKAcLAbLAdMEcNEbJEdObPEcQAcREcSEbHEdTEbHEdUbVEcXEcYbZErSMALL LETT
ER AbBBEcEcCEbHEdDEbHEdEaIcFEcGAcHAbHAdIaJEdJEcKAcLAbLAdMEcNEbJEdObPEcQAcREcSEbHEdTEbHEdUbVEcXEcYbZE
xOIDED GREEK CROSSqLCANOeLEYBALLhUME INTEGRALoS1a0a0b1b2b3b4b5b6b7b8b9c1a0b1b2b3b4b5b6b7b8b9c2a0b1b2
b3b4b5b6b7b8b9c3a0b1b2b3b4b5b6b7b8b9c4a0b1b2b3b4b5b6b7b8b9c5a0b1b2b3b4b5b6b7b8b9c6a0b1b2b3b4b5b6b7b8
b9c7a0b1b2b3b4b5b6b7b8b9c8a0b1b2b3b4b5b6b7b8b9c9a0b1b2b3b4b5b6b7b8b9d2a0a0b1b2b3b4b5b6b7b8b9c1a0b1b2
b3b4b5b6b7b8b9c2a0b1b2b3b4b5b6b7b8b9c3a0b1b2b3b4b5b6b7b8b9c4a0b1b2b3b4b5b6b7b8b9c5a0b1b2b3b4b5b6c6b7
b8b9c3a0b1b2b3b4b5b6b7b8b9c4a0b1b2b3b4b5b6b7b8b9c5a0b1b2b3b4b5b6b7b8b9c6a0b1b2b3b4b5b6b7b8b9c7a0b1b2
b3b4b5b6b7b8b9c8a0b1b2b3b4b5b6b7b8b9c9a0b1b2b3b4b5b6b7b8b9dTaScULCANUSfGAR FRACTION FIVE EIGHTHShSIX
THSkOUR FIFTHSlONE EIGHTHgFIFTHfHALFeNINTHfQUARTERhSEVENTHgIXTHfTENTHeHIRDjSEVEN EIGHTHSnTHREE EIGHT
HShFIFTHSgQUARTERSnWO FIFTHSgTHIRDSkZERO THIRDSzcWAFFLEeNCHO DIGIT EIGHTfFIVEdOUReNINEeONEdSEVENeIXd
THREEeWOdZEROkLETTER AaAaNaGdNGcUcBAcCAcDAcEaNcFAcGAcHAcIaNGdJAcKAbHAdLAbLHAeMAcNAbGAcYAdOaNaGdPAbHA
dRAcSAbHAdTAbHAcRAcSAdUaENdVAcWAcYAbIHdZAjNGUN SIGNjTONE KOIaNIfTUPaNIoING CRESCENT MOON SYMBOLuGIBB
OUS MOON SYMBOLyRANG CITI CAPITAL LETTER AaMbNGcTcBUcDAcEaNNbYdGAcHARcIYOdOLOcRReIIcKOcNGAAdUNGeOaDD
dPUcSIIcSUUeTTEdUCbUcVIYOeWIcYAbObUaJsDIGIT EIGHTfFIVEdOUReNINEeONEdSEVENeIXdTHREEeWOdZEROkNUMBER EI
GHTYgFIFTYeORTYfNINETYgSEVENTYgIXTYfTENcHIRTYfWENTYnOMcSMALL LETTER AaMbNGcTcBUcDAcEaNNbYdGAcHARcIYO
dOLOcRReIIcKOcNGAAdUNGeOaDDdPUcSIIcSUUeTTEdUCbUcVIYOeWIcYAbObUaJzNING SIGNkSTEBASKETjTCHcER BUFFALOh
CLOSETgPOLOeWAVEfMELONiVE ARROW POINTING DIRECTLY LEFTeRIGHTzeDASHgING BLACK FLAGkHAND SIGNjWHITE FL
AGoY DASHeLINEdOW LINEiOVERLINElXING CRESCENT MOON SYMBOLuGIBBOUS MOON SYMBOLzEARY CAT FACEiFACEiDDI
NGeGE-TAILED RIGHTWARDS ARROWzcIERSTRASS ELLIPTIC FUNCTIONzbGHT LIFTERlST SYRIAC CROSSqHALEdEELa OF
 DHARMAkCHAIR SYMBOLpITE ARROW SHAFT WIDTH ONEdTWO THIRDSzdBULLETgCHESS BISHOPa ROTATED NINETY DEGRE
ESoTWO HUNDRED SEVENTY DEGREESzrEQUIHOPPERa ROTATED NINETY DEGREESziKINGa ROTATED NINETY DEGREESoTWO
 HUNDRED SEVENTY DEGREESzoNIGHTa ROTATED FORTY-FIVE DEGREESsNINETY DEGREESoONE HUNDRED THIRTY-FIVE D
EGREESzgTHREE HUNDRED FIFTEEN DEGREESzdWO HUNDRED SEVENTY DEGREESpTWENTY-FIVE DEGREESzp-BISHOPgQUEEN
fROOKlPAWNa ROTATED NINETY DEGREESoTWO HUNDRED SEVENTY DEGREESzpQUEENa ROTATED NINETY DEGREESoTWO HU
NDRED SEVENTY DEGREESzqROOKa ROTATED NINETY DEGREESoTWO HUNDRED SEVENTY DEGREESzpTURNED BISHOPgKINGd
NIGHTgPAWNeQUEENfROOKqIRCLEa CONTAINING BLACK SMALL CIRCLEzeWITH DOT RIGHThWN ARROWkLOWER LEFT QUADR
ANTnRIGHT QUADRANTuTWO DOTSiUPPER LEFT QUADRANTnRIGHT QUADRANTzgLUB SUITiONCAVE-SIDED DIAMONDa WITH
 LEFTWARDS TICKoRIGHTWARDS TICKzrDIAMONDa CONTAINING BLACK MEDIUM DIAMONDoSMALL DIAMONDnVERY SMALL D
IAMONDzkIN SQUAREjSUITeWITH CENTRED DOTxOWN POINTING BACKHAND INDEXoINDEXfLEFT HAND INDEXz-POINTING
 SMALL TRIANGLEoTRIANGLEvRAUGHTS KINGeMANmEXCLAMATION MARK ORNAMENTzFLAGa WITH HORIZONTAL MIDDLE BLA
CK STRIPEznORETTEfWERfOUR POINTED CUSPeSTARqROWNING FACEnHARD SHELL FLOPPY DISKvEARTa SUIThVY CHECK
 MARKkSALTIRE WITH ROUNDED CORNERSzhXAGONgORIZONTAL ELLIPSEqURGLASSjLARGE SQUAREkTIN CROSSkEFT LANE
 MERGEkPOINTING BACKHAND INDEXoINDEXp-POINTING POINTERhSMALL TRIANGLEoTRIANGLEvOZENGE CONTAINING BLA
CK SMALL LOZENGEznMEDIUM DIAMONDhLOZENGEhSMALL SQUARElQUAREfTARkOON SELENAlNIBdPARALLELOGRAMmENNANTe
TAGONiQUESTION MARK ORNAMENTwRECTANGLEiIGHT POINTING BACKHAND INDEXoINDEXp-POINTING PENTAGONhOINTERh
SMALL TRIANGLEoTRIANGLExSCISSORShESAME DOTjHOGI PIECEkMALL LOZENGEhSQUAREfTARiILING FACElPADE SUITjQ
UAREa BUTTONgCONTAINING BLACK MEDIUM SQUAREnSMALL SQUAREmVERY SMALL SQUAREzjWITH CENTRE VERTICAL LIN
EuLEFTWARDS TICKnOWER LEFT QUADRANTnRIGHT QUADRANTuRIGHTWARDS TICKoOUNDED CORNERSpUPPER LEFT QUADRAN
TnRIGHT QUADRANTuVERTICAL BISECTING LINEzjTARdUNa BEHIND CLOUDa WITH RAINwWITH RAYSeSMALL CLOUDuTELE
PHONEiOUCHTONE TELEPHONEsRAPEZIUMhIANGLE CONTAINING SMALL WHITE TRIANGLEzoWO-WAY LEFT WAY TRAFFICyUP
 POINTING BACKHAND INDEXoINDEXp-POINTING CHEVRONhSMALL TRIANGLEoTRIANGLEa WITH DOTzeVERTICAL BARdELL
IPSEhRECTANGLEpY SMALL SQUAREs-FEATHERED RIGHTWARDS ARROWzgIDE-HEADED DOWNWARDS BARB ARROWkHEAVY BAR
B ARROWqLIGHT BARB ARROWqMEDIUM BARB ARROWrVERY HEAVY BARB ARROWzgLEFTWARDS BARB ARROWkHEAVY BARB AR
ROWqLIGHT BARB ARROWqMEDIUM BARB ARROWrVERY HEAVY BARB ARROWzgNORTH EAST BARB ARROWkHEAVY BARB ARROW
qLIGHT BARB ARROWqMEDIUM BARB ARROWrVERY HEAVY BARB ARROWzbWEST BARB ARROWkHEAVY BARB ARROWqLIGHT BA
RB ARROWqMEDIUM BARB ARROWrVERY HEAVY BARB ARROWzhRIGHTWARDS BARB ARROWkHEAVY BARB ARROWqLIGHT BARB
 ARROWqMEDIUM BARB ARROWrVERY HEAVY BARB ARROWzhSOUTH EAST BARB ARROWkHEAVY BARB ARROWqLIGHT BARB AR
ROWqMEDIUM BARB ARROWrVERY HEAVY BARB ARROWzbWEST BARB ARROWkHEAVY BARB ARROWqLIGHT BARB ARROWqMEDIU
M BARB ARROWrVERY HEAVY BARB ARROWzhUPWARDS BARB ARROWkHEAVY BARB ARROWqLIGHT BARB ARROWqMEDIUM BARB
 ARROWrVERY HEAVY BARB ARROWzoGGLY VERTICAL LINEsLTED FLOWERlND BLOWING FACEmCHIMEgOWdE GLASShKING F
ACEkRED KEYBOARDnJbOLF FACEhMANa WITH BUNNY EARSqS BOOTSfCLOTHEShHATdSANDALkENS SYMBOLlN SIGNgODcRD
 JOINERgSEPARATOR MIDDLE DOTwLD MAPgMbRIED FACElRAPPED PRESENTnEATH PRODUCTlNCHdSTLERShITING HANDmX
 IN A RECTANGLE BOXt-RAYeIANGQI BLACK CANNONfHARIOThELEPHANTiGENERALhHORSEfMANDARINiSOLDIERnRED CANN
ONfHARIOThELEPHANTiGENERALhHORSEfMANDARINiSOLDIERsORdYAWNING FACElELLOW HEARTkN SIGNgZIDI COMBINING
 HAMZA MARKkMADDA MARKuHYPHENATION MARKqLETTER BEcCHHIMdIMdIMdDADbLdELIFdTbWbYNdFAcGAFdHAYcHAdJAcKAF
cHAFeLAMa WITH DOT ABOVEsMIMdNUNdOWcPEbHEdQAFdRAbHAdSADcEbHINdINdTAbHEdUMcVAa ALTERNATE FORMrWAWdXAb
HEYNfYOTa WITH CIRCUMFLEX ABOVEzZAaLcEpI RADICAL BBUTdURdCHEcIPcUOPdYaPbTdDDURdUcGAbEPcGOPcUOdOTdHMO
cXITcOPcUOeJJIEcUTcYcOcKEbITdLIaEcYRdMIbOPdNBIEdYIPcOPdZUPeOPcPUTcYTdQOTdSHATcOPcURcYcSIdTATcUcVEPcU
RdWOcYITcOcZAbOTcUPbRcZIETnSYLLABLE AaPbTbXcBAaPbTbXcBAaPbTbXcEaPbXcIaEaPbTbXcPbTbXcOaPbTbXcUaOaPbXc
PbRaXcTbXcYaPbTbXdEaPbXcIaEaPbTbXcPbTbXcOaPbTbXcUaOaPbXcPbRaXcTbXcYaPbRaXcTbXdCAaPbTbXcEaPbXcHAaPbTb
XcEaPbTbXcOaPbTbXcUaOaPbTbXcPbRaXcXcYaPbRaXcTbXdIaEaPbTbXcPbTbXcOaPbTbXcUaOaPbXcPbRaXcTbXcYaPbRaXcTb
XdDAaPbTbXcDAaPbTbXcEaPbXcIaEaPbXcPbTbXcOaPbTbXcUaOaPbXcPbRaXcTbXdEaPbXcIaEaPbXcPbTbXcOaPbTbXcUaOaXc
PbRaXcTbXdEaXcFAaPbTbXcIaPbTbXcOaPbXcUaPbRaXcTbXcYaPbTbXdGAaPbTbXcEaPbTbXcGAaPbTbXcEaPbTbXcIaEaPbXcT
bXcOaPbTbXcUaOaPbTbXcPbRaXcTbXdIaEaPbTbXcPbTbXcOaPbTbXcUaOaPbTbXcPbRaXcTbXdHAaPbTbXcEaPbXcIEaXcTcLAa
PbTbXcEaPbXcIaEaPbXcPbTbXcOaPbXcUaOaPbXcPbRaXcTbXcYaPbRaXcTbXdMAaPbTbXcIaEaPbXcPbTbXcOaPbTbXcUaOaPbX
cPbRaXcTbXcYaPbRaXcXdNAaPbTbXcEaPbXcIaEaPbTbXcPbTbXcOPbTbXcUOaXcTdOaPbTbXcUOaPbTbXdXAaPbTbXcEaPbXcIa
EaPbTbXcPbTbXcOaPbTbXcUOaPbTbXfIaEaPbTbXcPbTaERATION MARKnXcJIaEaPbTbXcPbTbXcJIaEaPbTbXcPbTbXcOaPbTb
XcUaOaPbXcPbRaXcTbXcYaPbTbXdOaPbTbXcUaOaPbTbXcPbRaXcTbXcYaPbRaXcTbXdKAaPbTbXcEaPbTbXcIaEaPbXcPbTbXcO
aPbTbXcUaOaPbXcPbRaXcTbXdLAaPbTbXcEaPbXcIaEaPbTbXcPbTbXcOaPbTbXcUaOaPbTbXcPbRaXcTbXcYaPbRaXcTbXdMAaP
bTbXcEaXcGAaPbTbXcEaPbXcIEaXdOaPbTbXcUaOaPbXcPbRaXcTbXdIaEaPbXcPbTbXcOaPbTbXcUaOaPbTbXcPbRaXcTbXcYaP
bTbXdNAaPbXcBAaPbTbXcIaEaPbXcPbTbXcOaPbTbXcUaPbRaXcTbXcYaPbRaXcTbXdDAaPbTbXcEaPbXcIaEaXcPbTbXcOaPbTb
XcUaPbRaXcTbXdEaPbXcGAaPbTbXcEaPbXcIEaPbXdOaPbTbXcUOaTbXeIaEaPbXcPbTbXcJIaEaPbTbXcPbTbXcOaPbTbXcUaOa
XcPbRaXcXcYaPbRaXcTbXdOaPbTbXcRAaPbTbXcEaPbTbXcOaPbXcUaPbRaXcTbXcYaPbRaXcTbXdUaOaPbXcPbRaXcTbXcYIaEa
PbTbXcPbTbXcOaPbTbXcUaOaPbXcPbTbXdZAaPbTbXcEaXcIaEaPbXcPbTbXcOPbXcUaOaXcPbRaXcXcYaPbRaXcTbXeOaPbTbXc
PAaPbTbXcIaEaPbXcPbTbXcOaPbTbXcUaOaPbXcPbRaXcTbXcYaPbRaXcTbXdQIaEaPbTbXcPbTbXcOaPbTbXcUaOaPbTbXcPbRa
XcTbXcYaPbRaXcTbXdRAaPbTbXcEaPbXcOaPbTbXcRAaXcEaPbTbXcOaPbTbXcUaOaXcPbRaXcTbXcYaPbRaXcTbXdUaOaPbXcPb
RaXcTbXcYaPbRaXcTbXdSAaPbTbXcEaPbXcHAaPbTbXcEaPbTbXcOaPbTbXcUaOaPbXcPbRaXcTbXcYaPbRaXcTbXdIaEaPbXcPb
TbXcOaPbTbXcSAaPbTbXcEaPbXcIaEaPbXcPbTbXcOaPbTbXcUaPbTbXcYaPbRaXcTbXdUaOaPbXcPbRaXcTbXcYaPbRaXcTbXdT
AaPbTbXcEaPbXcIaEaPbXcPbTbXcOaPbTbXcUaOaPbTbXcPbRaXcTbXdUOaPbXdVAaPbTbXcEPbXcIaEaPbTbXcPbTbXcOaPbTbX
cUaPbRaXcTbXcYaPbRaXcTbXdWAaPbTbXcEaPbXcOaPbXcUaOaPbXeXIaEaPbTbXcPbTbXcOaPbTbXcUOaXdYaPbRaXcTbXdYIaE
aPbTbXcPbTbXcOaPbTbXcUaOaPbTbXcPbRaXcTbXcYaPbRaXcTbXdZAaPbTbXcEaPbXcHAaPbTbXcEaPbTbXcOaPbTbXcUaOaPbX
cPbRaXcTbXcYaPbRaXcTbXdIaEaPbXcPbTbXcOaPbTbXcUaOaPbXcPbRaXcTbXcYaPbRaXcTbXcZAaPbTbXcEaPbXcIaEaPbTbXc
PbTbXcOaPbXcUaPbRaXcXcYaPbRaXcTbXoN YANGhO-YOfZ NOTATION BAG MEMBERSHIPoDOMAIN ANTIRESTRICTIONwLEFT
 BINDING BRACKETpIMAGE BRACKETsRANGE ANTIRESTRICTIONuELATIONAL COMPOSITIONvIGHT BINDING BRACKETpIMAG
E BRACKETtSCHEMA COMPOSITIONlPIPINGfROJECTIONqPOTeTYPE COLONuANABAZAR SQUARE CLOSING DOUBLE-LINED HE
AD MARKwHEAD MARKpUSTER-FINAL LETTER LAcRAcVAcYApINITIAL LETTER RAzFINAL CONSONANT MARKuINITIAL DOUB
LE-LINED HEAD MARKwHEAD MARKrLETTER -AcAbBAbHAdCAbHAdDAbDAbHAdHAcZAbHAeGAbHAdHAcJAcKAbHAcSSAeLAcMAcN
AbGAcNAcYAdPAbHAdRAcSAbHAcSAdTAbHAcSAbHAdTAbHAeVAcYAcZAbHAkMARK DOUBLE SHADlLONG TSHEGkSHADeTSHEGkSI
GN ANUSVARAiCANDRA WITH ORNAMENToBINDUa WITH ORNAMENTzVIRAMAeSARGAlUBJOINERjVOWEL LENGTH MARKlSIGN A
IbUcEbIbOaEcREVERSED IkUaEzeEBRA FACEiRO WIDTH JOINERgNO-BREAK SPACEmN-JOINERkSPACEoUSdIPPER-MOUTH F
ACEqNAMENNY COMBINING ATTACHING VERTICAL OMETxLOWER TONAL RANGE INDICATORzcMARK BORZAYAhCHASHKAa POL
NAYAoURVED OMETlDEMESTVENNY ZADERZHKAuVOETOCHIEkGORAZDO NIZKO ON LEFTeRIGHTiS KRYZHEM ON LEFTeRIGHTy
VYSOKOoKACHKAfRYZHa ON LEFTmUPNAYAhLOMKAfMALO POVYSHE ON LEFTeRIGHTiS KHOKHLOM ON LEFTeRIGHTqRYZHEMi
TRANNOuNIZKO ON LEFTeRIGHTiS KRYZHEM ON LEFTeRIGHTyOBLACHKOhNbTSECHKAiPODCHASHIEa WITH VERTICAL STRO
KEzdVERTKAhVYSHE ON LEFTeRIGHTiS KHOKHLOM ON LEFTeRIGHTqRYZHEMiTRANNOpRAVNOdZSEKAhSKOBAeOROCHYA NOZH
KAoREDNE ON LEFTeRIGHToTRANNO MALO POVYSHEuTIKHAYAgOCHKAfSATA ON LEFTeRIGHTiS KRYZHEMpUDARKAgVYSOKO
 ON LEFTeRIGHTiS KHOKHLOM ON LEFTeRIGHTqRYZHEMqZADERZHKAiELOcVOKkTONAL RANGE MARK MRACHNOhSVETLOgTRE
SVETLOzlNEUME CHASHKAfELYUSTKAkDEMESTVENNY KLYUCHqRBITSAhOUBLE ZAPYATAYApUDAdVA V CHELNUmFITAeGOLUBC
HIK BORZYfMRACHNYhSVETLYgTIKHYeRESVETLYtKHAMILOgLYUCHfOBYLAfRYUKa TIKHYiZHeUFISMAhMECHIKa KLYUCHENEP
OSTOYANNYmPOVODNYhVOYkPOVODNYoNEMKAfOBLAKOfSOKAa KLYUCHEVAYA NEPOSTOYANNAYAoSVETLAYAtRYUKOVAYA SVETL
AYAtSVETLAYAiTRESVETLAYArPALKAdRAKLITgUKdEREVODKAa NEPOSTOYANNAYAxODCHASHIEiLKULIZMYkREVERSED CHELYU
STKAsOGdSKAMEYTSA DVOECHELNAYA KLYUCHEVAYAlNEPOSTOYANNAYAoPROSTAYAiSVETLAYAvKLYUCHENEPOSTOYANNAYAoVA
YA SVETLAYAiTIKHAYAtMRACHNAYAjSVETLAYAiTIKHAYAgRESVETLAYAuLOZHITIEa S KRYZHEMhZAPYATOYkZAKRYTOErTATY
Aa NEPOSTOYANNAYAoS DVUMYA ZAPYATYMIqKRYZHEMa I ZAPYATOYsROGOMfZAPYATOYa I KRYZHEMhPODCHASHIEMyZAKRY
TAYAa S ZAPYATOYzOPITSAa S OCHKOMiWITH SOROCHYA NOZHKAzcRELA DVOECHELNAYAa KLYUCHEVAYApOKRYZHEVAYAkP
OVODNAYAa KLYUCHEVAYAzgGROMNAYAa WITH SINGLE ZAPYATAYAzbOKRYZHEVAYAa POVODNAYAuPOVODNAYAa WITH DOUBL
E ZAPYATAYAqSINGLE ZAPYATAYAzlKLYUCHENEPOSTOYANNAYAoPOVODNAYApRYUKOVAYAa GROMNAYAa WITH SINGLE ZAPYA
TAYAzbOKRYZHEVAYAa POVODNAYAuPOVODNAYAa WITH DOUBLE ZAPYATAYAqSINGLE ZAPYATAYAzlPOVODNAYAjTRYASKApZH
EVAYAkMRACHNOTIKHAYAoNEPOSTOYANNAYAoPOLUPOVODNAYAlVODNAYAiROSTAYAiTIKHAYA PUTNAYAoRYASOGLASNAYAiPOVO
DNAYAjSTRELNAYAwVRAKHIYA KLYUCHEVAYA MRACHNAYAjPROSTAYAiSVETLAYAiTRESVETLAYAxMRACHNAYAjPROSTAYAiSVET
LAYAiTRESVETLAYAuZANOZHEKgPYATAYAiMEYTSAnPRIZNAK MODIFIER DIRECTION FLIPoKRYZHfLEVEL-2b3hROGzdOMBIEf
WJbNBSPdJcSP"

end Promptline.Text
