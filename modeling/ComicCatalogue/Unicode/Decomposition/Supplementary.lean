import ComicCatalogue.Unicode.Decomposition.Entry

/-!
# Decompositions: supplementary planes

The full compatibility decompositions of the supplementary planes.
-/

namespace ComicCatalogue.Unicode.Decomposition.Supplementary

open Decomposition (shifted listed)

/-- Decompositions from U+105C9 to U+1D6C0. -/
def from105C9 : List Entry := [
  listed 0x105C9 [[0x105D2, 0x0307]],
  listed 0x105E4 [[0x105DA, 0x0307]],
  listed 0x10781 [[0x02D0], [0x02D1], [0x00E6], [0x0299], [0x0253]],
  listed 0x10787 [[0x02A3], [0xAB66], [0x02A5], [0x02A4], [0x0256], [0x0257], [0x1D91], [0x0258]],
  listed 0x1078F [[0x025E], [0x02A9], [0x0264], [0x0262], [0x0260], [0x029B], [0x0127], [0x029C]],
  listed 0x10797 [[0x0267], [0x0284], [0x02AA], [0x02AB], [0x026C], [0x1DF04], [0xA78E], [0x026E]],
  listed 0x1079F [[0x1DF05], [0x028E], [0x1DF06], [0x00F8], [0x0276], [0x0277], [0x0071], [0x027A]],
  listed 0x107A7 [[0x1DF08], [0x027D], [0x027E], [0x0280], [0x02A8], [0x02A6], [0xAB67], [0x02A7]],
  listed 0x107AF [[0x0288], [0x2C71]],
  listed 0x107B2 [[0x028F], [0x02A1], [0x02A2], [0x0298]],
  shifted 0x107B6 0x107B8 0x01C0,
  listed 0x107B9 [[0x1DF0A], [0x1DF1E], [0x0287], [0x0296], [0x0297], [0x029E], [0x1DF0B]],
  listed 0x1109A [[0x11099, 0x110BA]],
  listed 0x1109C [[0x1109B, 0x110BA]],
  listed 0x110AB [[0x110A5, 0x110BA]],
  listed 0x1112E [[0x11131, 0x11127], [0x11132, 0x11127]],
  listed 0x1134B [[0x11347, 0x1133E], [0x11347, 0x11357]],
  listed 0x11383 [[0x11382, 0x113C9]],
  listed 0x11385 [[0x11384, 0x113BB]],
  listed 0x1138E [[0x1138B, 0x113C2]],
  listed 0x11391 [[0x11390, 0x113C9]],
  listed 0x113C5 [[0x113C2, 0x113C2]],
  listed 0x113C7 [[0x113C2, 0x113B8], [0x113C2, 0x113C9]],
  listed 0x114BB [[0x114B9, 0x114BA], [0x114B9, 0x114B0]],
  listed 0x114BE [[0x114B9, 0x114BD]],
  listed 0x115BA [[0x115B8, 0x115AF], [0x115B9, 0x115AF]],
  listed 0x11938 [[0x11935, 0x11930]],
  listed 0x16121 [[0x1611E, 0x1611E], [0x1611E, 0x16129], [0x1611E, 0x1611F], [0x16129, 0x1611F],
    [0x1611E, 0x16120], [0x1611E, 0x1611E, 0x1611F], [0x1611E, 0x16129, 0x1611F],
    [0x1611E, 0x1611E, 0x16120]],
  listed 0x16D68 [[0x16D67, 0x16D67], [0x16D63, 0x16D67], [0x16D63, 0x16D67, 0x16D67]],
  listed 0x1B123 [[0x3053, 0x3068], [0x30C8, 0x30AD], [0x30C8, 0x30C6], [0x30E8, 0x30EA]],
  shifted 0x1CCD6 0x1CCEF 0x0041,
  shifted 0x1CCF0 0x1CCF9 0x0030,
  listed 0x1D15E [[0x1D157, 0x1D165], [0x1D158, 0x1D165], [0x1D158, 0x1D165, 0x1D16E],
    [0x1D158, 0x1D165, 0x1D16F], [0x1D158, 0x1D165, 0x1D170], [0x1D158, 0x1D165, 0x1D171],
    [0x1D158, 0x1D165, 0x1D172]],
  listed 0x1D1BB [[0x1D1B9, 0x1D165], [0x1D1BA, 0x1D165], [0x1D1B9, 0x1D165, 0x1D16E],
    [0x1D1BA, 0x1D165, 0x1D16E], [0x1D1B9, 0x1D165, 0x1D16F], [0x1D1BA, 0x1D165, 0x1D16F]],
  shifted 0x1D400 0x1D419 0x0041,
  shifted 0x1D41A 0x1D433 0x0061,
  shifted 0x1D434 0x1D44D 0x0041,
  shifted 0x1D44E 0x1D454 0x0061,
  shifted 0x1D456 0x1D467 0x0069,
  shifted 0x1D468 0x1D481 0x0041,
  shifted 0x1D482 0x1D49B 0x0061,
  listed 0x1D49C [[0x0041]],
  listed 0x1D49E [[0x0043], [0x0044]],
  listed 0x1D4A2 [[0x0047]],
  listed 0x1D4A5 [[0x004A], [0x004B]],
  shifted 0x1D4A9 0x1D4AC 0x004E,
  shifted 0x1D4AE 0x1D4B5 0x0053,
  shifted 0x1D4B6 0x1D4B9 0x0061,
  listed 0x1D4BB [[0x0066]],
  shifted 0x1D4BD 0x1D4C3 0x0068,
  shifted 0x1D4C5 0x1D4CF 0x0070,
  shifted 0x1D4D0 0x1D4E9 0x0041,
  shifted 0x1D4EA 0x1D503 0x0061,
  listed 0x1D504 [[0x0041], [0x0042]],
  shifted 0x1D507 0x1D50A 0x0044,
  shifted 0x1D50D 0x1D514 0x004A,
  shifted 0x1D516 0x1D51C 0x0053,
  shifted 0x1D51E 0x1D537 0x0061,
  listed 0x1D538 [[0x0041], [0x0042]],
  shifted 0x1D53B 0x1D53E 0x0044,
  shifted 0x1D540 0x1D544 0x0049,
  listed 0x1D546 [[0x004F]],
  shifted 0x1D54A 0x1D550 0x0053,
  shifted 0x1D552 0x1D56B 0x0061,
  shifted 0x1D56C 0x1D585 0x0041,
  shifted 0x1D586 0x1D59F 0x0061,
  shifted 0x1D5A0 0x1D5B9 0x0041,
  shifted 0x1D5BA 0x1D5D3 0x0061,
  shifted 0x1D5D4 0x1D5ED 0x0041,
  shifted 0x1D5EE 0x1D607 0x0061,
  shifted 0x1D608 0x1D621 0x0041,
  shifted 0x1D622 0x1D63B 0x0061,
  shifted 0x1D63C 0x1D655 0x0041,
  shifted 0x1D656 0x1D66F 0x0061,
  shifted 0x1D670 0x1D689 0x0041,
  shifted 0x1D68A 0x1D6A3 0x0061,
  listed 0x1D6A4 [[0x0131], [0x0237], [0x00DF]],
  shifted 0x1D6A8 0x1D6B8 0x0391,
  listed 0x1D6B9 [[0x0398]],
  shifted 0x1D6BA 0x1D6C0 0x03A3]

/-- Decompositions from U+1D6C1 to U+1EE5F. -/
def from1D6C1 : List Entry := [
  listed 0x1D6C1 [[0x2207]],
  shifted 0x1D6C2 0x1D6DA 0x03B1,
  listed 0x1D6DB [[0x2202], [0x03B5], [0x03B8], [0x03BA], [0x03C6], [0x03C1], [0x03C0]],
  shifted 0x1D6E2 0x1D6F2 0x0391,
  listed 0x1D6F3 [[0x0398]],
  shifted 0x1D6F4 0x1D6FA 0x03A3,
  listed 0x1D6FB [[0x2207]],
  shifted 0x1D6FC 0x1D714 0x03B1,
  listed 0x1D715 [[0x2202], [0x03B5], [0x03B8], [0x03BA], [0x03C6], [0x03C1], [0x03C0]],
  shifted 0x1D71C 0x1D72C 0x0391,
  listed 0x1D72D [[0x0398]],
  shifted 0x1D72E 0x1D734 0x03A3,
  listed 0x1D735 [[0x2207]],
  shifted 0x1D736 0x1D74E 0x03B1,
  listed 0x1D74F [[0x2202], [0x03B5], [0x03B8], [0x03BA], [0x03C6], [0x03C1], [0x03C0]],
  shifted 0x1D756 0x1D766 0x0391,
  listed 0x1D767 [[0x0398]],
  shifted 0x1D768 0x1D76E 0x03A3,
  listed 0x1D76F [[0x2207]],
  shifted 0x1D770 0x1D788 0x03B1,
  listed 0x1D789 [[0x2202], [0x03B5], [0x03B8], [0x03BA], [0x03C6], [0x03C1], [0x03C0]],
  shifted 0x1D790 0x1D7A0 0x0391,
  listed 0x1D7A1 [[0x0398]],
  shifted 0x1D7A2 0x1D7A8 0x03A3,
  listed 0x1D7A9 [[0x2207]],
  shifted 0x1D7AA 0x1D7C2 0x03B1,
  listed 0x1D7C3 [[0x2202], [0x03B5], [0x03B8], [0x03BA], [0x03C6], [0x03C1], [0x03C0], [0x03DC]],
  listed 0x1D7CB [[0x03DD]],
  shifted 0x1D7CE 0x1D7D7 0x0030,
  shifted 0x1D7D8 0x1D7E1 0x0030,
  shifted 0x1D7E2 0x1D7EB 0x0030,
  shifted 0x1D7EC 0x1D7F5 0x0030,
  shifted 0x1D7F6 0x1D7FF 0x0030,
  listed 0x1DF95 [[0x00DF]],
  listed 0x1DFD0 [[0x0263], [0x1D18], [0x0180], [0x0111], [0x01E5], [0x0142], [0x019A]],
  listed 0x1DFD9 [[0x0249], [0x1D7F]],
  listed 0x1DFDC [[0x019E], [0x027C], [0x0238], [0x0239]],
  listed 0x1DFE1 [[0x1DF19], [0x0286], [0x1D98]],
  listed 0x1DFE5 [[0x1DF1C], [0x0293], [0x1D9A], [0x1D05], [0x1D00], [0x1D07], [0x027F], [0x0285]],
  listed 0x1DFED [[0x02AE], [0x02AF], [0x0221]],
  shifted 0x1DFF0 0x1DFF2 0x0234,
  listed 0x1DFF3 [[0x03C8], [0x03C9], [0x1D81], [0xA795], [0x1D87], [0x1D8A], [0x1D8E], [0x0188]],
  listed 0x1DFFB [[0x0199], [0x01A5], [0x02A0], [0x01AD], [0x1DF09]],
  shifted 0x1E030 0x1E038 0x0430,
  shifted 0x1E039 0x1E03B 0x043A,
  shifted 0x1E03C 0x1E046 0x043E,
  listed 0x1E047 [[0x044B], [0x044D], [0x044E], [0xA689], [0x04D9], [0x0456], [0x0458], [0x04E9]],
  listed 0x1E04F [[0x04AF], [0x04CF]],
  shifted 0x1E051 0x1E059 0x0430,
  listed 0x1E05A [[0x043A], [0x043B], [0x043E], [0x043F], [0x0441]],
  shifted 0x1E05F 0x1E064 0x0443,
  listed 0x1E065 [[0x044A], [0x044B], [0x0491], [0x0456], [0x0455], [0x045F], [0x04AB], [0xA651]],
  listed 0x1E06D [[0x04B1]],
  listed 0x1EE00 [[0x0627], [0x0628], [0x062C], [0x062F]],
  listed 0x1EE05 [[0x0648], [0x0632], [0x062D], [0x0637], [0x064A]],
  shifted 0x1EE0A 0x1EE0D 0x0643,
  listed 0x1EE0E [[0x0633], [0x0639], [0x0641], [0x0635], [0x0642], [0x0631], [0x0634], [0x062A]],
  listed 0x1EE16 [[0x062B], [0x062E], [0x0630], [0x0636], [0x0638], [0x063A], [0x066E], [0x06BA]],
  listed 0x1EE1E [[0x06A1], [0x066F]],
  listed 0x1EE21 [[0x0628], [0x062C]],
  listed 0x1EE24 [[0x0647]],
  listed 0x1EE27 [[0x062D]],
  listed 0x1EE29 [[0x064A]],
  shifted 0x1EE2A 0x1EE2D 0x0643,
  listed 0x1EE2E [[0x0633], [0x0639], [0x0641], [0x0635], [0x0642]],
  listed 0x1EE34 [[0x0634], [0x062A], [0x062B], [0x062E]],
  listed 0x1EE39 [[0x0636]],
  listed 0x1EE3B [[0x063A]],
  listed 0x1EE42 [[0x062C]],
  listed 0x1EE47 [[0x062D]],
  listed 0x1EE49 [[0x064A]],
  listed 0x1EE4B [[0x0644]],
  listed 0x1EE4D [[0x0646], [0x0633], [0x0639]],
  listed 0x1EE51 [[0x0635], [0x0642]],
  listed 0x1EE54 [[0x0634]],
  listed 0x1EE57 [[0x062E]],
  listed 0x1EE59 [[0x0636]],
  listed 0x1EE5B [[0x063A]],
  listed 0x1EE5D [[0x06BA]],
  listed 0x1EE5F [[0x066F]]]

/-- Decompositions from U+1EE61 to U+2F94F. -/
def from1EE61 : List Entry := [
  listed 0x1EE61 [[0x0628], [0x062C]],
  listed 0x1EE64 [[0x0647]],
  listed 0x1EE67 [[0x062D], [0x0637], [0x064A], [0x0643]],
  listed 0x1EE6C [[0x0645], [0x0646], [0x0633], [0x0639], [0x0641], [0x0635], [0x0642]],
  listed 0x1EE74 [[0x0634], [0x062A], [0x062B], [0x062E]],
  listed 0x1EE79 [[0x0636], [0x0638], [0x063A], [0x066E]],
  listed 0x1EE7E [[0x06A1]],
  listed 0x1EE80 [[0x0627], [0x0628], [0x062C], [0x062F], [0x0647], [0x0648], [0x0632], [0x062D]],
  listed 0x1EE88 [[0x0637], [0x064A]],
  shifted 0x1EE8B 0x1EE8D 0x0644,
  listed 0x1EE8E [[0x0633], [0x0639], [0x0641], [0x0635], [0x0642], [0x0631], [0x0634], [0x062A]],
  listed 0x1EE96 [[0x062B], [0x062E], [0x0630], [0x0636], [0x0638], [0x063A]],
  listed 0x1EEA1 [[0x0628], [0x062C], [0x062F]],
  listed 0x1EEA5 [[0x0648], [0x0632], [0x062D], [0x0637], [0x064A]],
  shifted 0x1EEAB 0x1EEAD 0x0644,
  listed 0x1EEAE [[0x0633], [0x0639], [0x0641], [0x0635], [0x0642], [0x0631], [0x0634], [0x062A]],
  listed 0x1EEB6 [[0x062B], [0x062E], [0x0630], [0x0636], [0x0638], [0x063A]],
  listed 0x1F100 [[0x0030, 0x002E], [0x0030, 0x002C], [0x0031, 0x002C], [0x0032, 0x002C],
    [0x0033, 0x002C], [0x0034, 0x002C], [0x0035, 0x002C], [0x0036, 0x002C]],
  listed 0x1F108 [[0x0037, 0x002C], [0x0038, 0x002C], [0x0039, 0x002C]],
  listed 0x1F110 [[0x0028, 0x0041, 0x0029], [0x0028, 0x0042, 0x0029], [0x0028, 0x0043, 0x0029],
    [0x0028, 0x0044, 0x0029], [0x0028, 0x0045, 0x0029], [0x0028, 0x0046, 0x0029],
    [0x0028, 0x0047, 0x0029], [0x0028, 0x0048, 0x0029]],
  listed 0x1F118 [[0x0028, 0x0049, 0x0029], [0x0028, 0x004A, 0x0029], [0x0028, 0x004B, 0x0029],
    [0x0028, 0x004C, 0x0029], [0x0028, 0x004D, 0x0029], [0x0028, 0x004E, 0x0029],
    [0x0028, 0x004F, 0x0029], [0x0028, 0x0050, 0x0029]],
  listed 0x1F120 [[0x0028, 0x0051, 0x0029], [0x0028, 0x0052, 0x0029], [0x0028, 0x0053, 0x0029],
    [0x0028, 0x0054, 0x0029], [0x0028, 0x0055, 0x0029], [0x0028, 0x0056, 0x0029],
    [0x0028, 0x0057, 0x0029], [0x0028, 0x0058, 0x0029]],
  listed 0x1F128 [[0x0028, 0x0059, 0x0029], [0x0028, 0x005A, 0x0029], [0x3014, 0x0053, 0x3015],
    [0x0043], [0x0052], [0x0043, 0x0044], [0x0057, 0x005A]],
  shifted 0x1F130 0x1F149 0x0041,
  listed 0x1F14A [[0x0048, 0x0056], [0x004D, 0x0056], [0x0053, 0x0044], [0x0053, 0x0053],
    [0x0050, 0x0050, 0x0056], [0x0057, 0x0043]],
  listed 0x1F16A [[0x004D, 0x0043], [0x004D, 0x0044], [0x004D, 0x0052]],
  listed 0x1F190 [[0x0044, 0x004A]],
  listed 0x1F200 [[0x307B, 0x304B], [0x30B3, 0x30B3], [0x30B5]],
  listed 0x1F210 [[0x624B], [0x5B57], [0x53CC], [0x30C6, 0x3099], [0x4E8C], [0x591A], [0x89E3],
    [0x5929]],
  listed 0x1F218 [[0x4EA4], [0x6620], [0x7121], [0x6599], [0x524D], [0x5F8C], [0x518D], [0x65B0]],
  listed 0x1F220 [[0x521D], [0x7D42], [0x751F], [0x8CA9], [0x58F0], [0x5439], [0x6F14], [0x6295]],
  listed 0x1F228 [[0x6355], [0x4E00], [0x4E09], [0x904A], [0x5DE6], [0x4E2D], [0x53F3], [0x6307]],
  listed 0x1F230 [[0x8D70], [0x6253], [0x7981], [0x7A7A], [0x5408], [0x6E80], [0x6709], [0x6708]],
  listed 0x1F238 [[0x7533], [0x5272], [0x55B6], [0x914D]],
  listed 0x1F240 [[0x3014, 0x672C, 0x3015], [0x3014, 0x4E09, 0x3015], [0x3014, 0x4E8C, 0x3015],
    [0x3014, 0x5B89, 0x3015], [0x3014, 0x70B9, 0x3015], [0x3014, 0x6253, 0x3015],
    [0x3014, 0x76D7, 0x3015], [0x3014, 0x52DD, 0x3015]],
  listed 0x1F248 [[0x3014, 0x6557, 0x3015]],
  listed 0x1F250 [[0x5F97], [0x53EF]],
  shifted 0x1FBF0 0x1FBF9 0x0030,
  listed 0x2F800 [[0x4E3D], [0x4E38], [0x4E41], [0x20122], [0x4F60], [0x4FAE], [0x4FBB], [0x5002]],
  listed 0x2F808 [[0x507A], [0x5099], [0x50E7], [0x50CF], [0x349E], [0x2063A], [0x514D], [0x5154]],
  listed 0x2F810 [[0x5164], [0x5177], [0x2051C], [0x34B9], [0x5167], [0x518D], [0x2054B], [0x5197]],
  listed 0x2F818 [[0x51A4], [0x4ECC], [0x51AC], [0x51B5], [0x291DF], [0x51F5], [0x5203], [0x34DF]],
  listed 0x2F820 [[0x523B], [0x5246], [0x5272], [0x5277], [0x3515], [0x52C7], [0x52C9], [0x52E4]],
  listed 0x2F828 [[0x52FA], [0x5305], [0x5306], [0x5317], [0x5349], [0x5351], [0x535A], [0x5373]],
  listed 0x2F830 [[0x537D], [0x537F], [0x537F], [0x537F], [0x20A2C], [0x7070], [0x53CA], [0x53DF]],
  listed 0x2F838 [[0x20B63], [0x53EB], [0x53F1], [0x5406], [0x549E], [0x5438], [0x5448], [0x5468]],
  listed 0x2F840 [[0x54A2], [0x54F6], [0x5510], [0x5553], [0x5563], [0x5584], [0x5584], [0x5599]],
  listed 0x2F848 [[0x55AB], [0x55B3], [0x55C2], [0x5716], [0x5606], [0x5717], [0x5651], [0x5674]],
  listed 0x2F850 [[0x5207], [0x58EE], [0x57CE], [0x57F4], [0x580D], [0x578B], [0x5832], [0x5831]],
  listed 0x2F858 [[0x58AC], [0x214E4], [0x58F2], [0x58F7], [0x5906], [0x591A], [0x5922], [0x5962]],
  listed 0x2F860 [[0x216A8], [0x216EA], [0x59EC], [0x5A1B], [0x5A27], [0x59D8], [0x5A66], [0x36EE]],
  listed 0x2F868 [[0x36FC], [0x5B08], [0x5B3E], [0x5B3E], [0x219C8], [0x5BC3], [0x5BD8], [0x5BE7]],
  listed 0x2F870 [[0x5BF3], [0x21B18], [0x5BFF], [0x5C06], [0x5F53], [0x5C22], [0x3781], [0x5C60]],
  listed 0x2F878 [[0x5C6E], [0x5CC0], [0x5C8D], [0x21DE4], [0x5D43], [0x21DE6], [0x5D6E], [0x5D6B]],
  listed 0x2F880 [[0x5D7C], [0x5DE1], [0x5DE2], [0x382F], [0x5DFD], [0x5E28], [0x5E3D], [0x5E69]],
  listed 0x2F888 [[0x3862], [0x22183], [0x387C], [0x5EB0], [0x5EB3], [0x5EB6], [0x5ECA], [0x2A392]],
  listed 0x2F890 [[0x5EFE], [0x22331], [0x22331], [0x8201], [0x5F22], [0x5F22], [0x38C7],
    [0x232B8]],
  listed 0x2F898 [[0x261DA], [0x5F62], [0x5F6B], [0x38E3], [0x5F9A], [0x5FCD], [0x5FD7], [0x5FF9]],
  listed 0x2F8A0 [[0x6081], [0x393A], [0x391C], [0x6094], [0x226D4], [0x60C7], [0x6148], [0x614C]],
  listed 0x2F8A8 [[0x614E], [0x614C], [0x617A], [0x618E], [0x61B2], [0x61A4], [0x61AF], [0x61DE]],
  listed 0x2F8B0 [[0x61F2], [0x61F6], [0x6210], [0x621B], [0x625D], [0x62B1], [0x62D4], [0x6350]],
  listed 0x2F8B8 [[0x22B0C], [0x633D], [0x62FC], [0x6368], [0x6383], [0x63E4], [0x22BF1], [0x6422]],
  listed 0x2F8C0 [[0x63C5], [0x63A9], [0x3A2E], [0x6469], [0x647E], [0x649D], [0x6477], [0x3A6C]],
  listed 0x2F8C8 [[0x654F], [0x656C], [0x2300A], [0x65E3], [0x66F8], [0x6649], [0x3B19], [0x6691]],
  listed 0x2F8D0 [[0x3B08], [0x3AE4], [0x5192], [0x5195], [0x6700], [0x669C], [0x80AD], [0x43D9]],
  listed 0x2F8D8 [[0x6717], [0x671B], [0x6721], [0x675E], [0x6753], [0x233C3], [0x3B49], [0x67FA]],
  listed 0x2F8E0 [[0x6785], [0x6852], [0x6885], [0x2346D], [0x688E], [0x681F], [0x6914], [0x3B9D]],
  listed 0x2F8E8 [[0x6942], [0x69A3], [0x69EA], [0x6AA8], [0x236A3], [0x6ADB], [0x3C18], [0x6B21]],
  listed 0x2F8F0 [[0x238A7], [0x6B54], [0x3C4E], [0x6B72], [0x6B9F], [0x6BBA], [0x6BBB], [0x23A8D]],
  listed 0x2F8F8 [[0x21D0B], [0x23AFA], [0x6C4E], [0x23CBC], [0x6CBF], [0x6CCD], [0x6C67],
    [0x6D16]],
  listed 0x2F900 [[0x6D3E], [0x6D77], [0x6D41], [0x6D69], [0x6D78], [0x6D85], [0x23D1E], [0x6D34]],
  listed 0x2F908 [[0x6E2F], [0x6E6E], [0x3D33], [0x6ECB], [0x6EC7], [0x23ED1], [0x6DF9], [0x6F6E]],
  listed 0x2F910 [[0x23F5E], [0x23F8E], [0x6FC6], [0x7039], [0x701E], [0x701B], [0x3D96], [0x704A]],
  listed 0x2F918 [[0x707D], [0x7077], [0x70AD], [0x20525], [0x7145], [0x24263], [0x719C],
    [0x243AB]],
  listed 0x2F920 [[0x7228], [0x7235], [0x7250], [0x24608], [0x7280], [0x7295], [0x24735],
    [0x24814]],
  listed 0x2F928 [[0x737A], [0x738B], [0x3EAC], [0x73A5], [0x3EB8], [0x3EB8], [0x7447], [0x745C]],
  listed 0x2F930 [[0x7471], [0x7485], [0x74CA], [0x3F1B], [0x7524], [0x24C36], [0x753E], [0x24C92]],
  listed 0x2F938 [[0x7570], [0x2219F], [0x7610], [0x24FA1], [0x24FB8], [0x25044], [0x3FFC],
    [0x4008]],
  listed 0x2F940 [[0x76F4], [0x250F3], [0x250F2], [0x25119], [0x25133], [0x771E], [0x771F],
    [0x771F]],
  listed 0x2F948 [[0x774A], [0x4039], [0x778B], [0x4046], [0x4096], [0x2541D], [0x784E], [0x788C]]]

/-- Decompositions from U+2F950 to U+2FA1D. -/
def from2F950 : List Entry := [
  listed 0x2F950 [[0x78CC], [0x40E3], [0x25626], [0x7956], [0x2569A], [0x256C5], [0x798F],
    [0x79EB]],
  listed 0x2F958 [[0x412F], [0x7A40], [0x7A4A], [0x7A4F], [0x2597C], [0x25AA7], [0x25AA7],
    [0x7AEE]],
  listed 0x2F960 [[0x4202], [0x25BAB], [0x7BC6], [0x7BC9], [0x4227], [0x25C80], [0x7CD2], [0x42A0]],
  listed 0x2F968 [[0x7CE8], [0x7CE3], [0x7D00], [0x25F86], [0x7D63], [0x4301], [0x7DC7], [0x7E02]],
  listed 0x2F970 [[0x7E45], [0x4334], [0x26228], [0x26247], [0x4359], [0x262D9], [0x7F7A],
    [0x2633E]],
  listed 0x2F978 [[0x7F95], [0x7FFA], [0x8005], [0x264DA], [0x26523], [0x8060], [0x265A8],
    [0x8070]],
  listed 0x2F980 [[0x2335F], [0x43D5], [0x80B2], [0x8103], [0x440B], [0x813E], [0x5AB5], [0x267A7]],
  listed 0x2F988 [[0x267B5], [0x23393], [0x2339C], [0x8201], [0x8204], [0x8F9E], [0x446B],
    [0x8291]],
  listed 0x2F990 [[0x828B], [0x829D], [0x52B3], [0x82B1], [0x82B3], [0x82BD], [0x82E6], [0x26B3C]],
  listed 0x2F998 [[0x82E5], [0x831D], [0x8363], [0x83AD], [0x8323], [0x83BD], [0x83E7], [0x8457]],
  listed 0x2F9A0 [[0x8353], [0x83CA], [0x83CC], [0x83DC], [0x26C36], [0x26D6B], [0x26CD5],
    [0x452B]],
  listed 0x2F9A8 [[0x84F1], [0x84F3], [0x8516], [0x273CA], [0x8564], [0x26F2C], [0x455D], [0x4561]],
  listed 0x2F9B0 [[0x26FB1], [0x270D2], [0x456B], [0x8650], [0x865C], [0x8667], [0x8669], [0x86A9]],
  listed 0x2F9B8 [[0x8688], [0x870E], [0x86E2], [0x8779], [0x8728], [0x876B], [0x8786], [0x45D7]],
  listed 0x2F9C0 [[0x87E1], [0x8801], [0x45F9], [0x8860], [0x8863], [0x27667], [0x88D7], [0x88DE]],
  listed 0x2F9C8 [[0x4635], [0x88FA], [0x34BB], [0x278AE], [0x27966], [0x46BE], [0x46C7], [0x8AA0]],
  listed 0x2F9D0 [[0x8AED], [0x8B8A], [0x8C55], [0x27CA8], [0x8CAB], [0x8CC1], [0x8D1B], [0x8D77]],
  listed 0x2F9D8 [[0x27F2F], [0x20804], [0x8DCB], [0x8DBC], [0x8DF0], [0x208DE], [0x8ED4],
    [0x8F38]],
  listed 0x2F9E0 [[0x285D2], [0x285ED], [0x9094], [0x90F1], [0x9111], [0x2872E], [0x911B],
    [0x9238]],
  listed 0x2F9E8 [[0x92D7], [0x92D8], [0x927C], [0x93F9], [0x9415], [0x28BFA], [0x958B], [0x4995]],
  listed 0x2F9F0 [[0x95B7], [0x28D77], [0x49E6], [0x96C3], [0x5DB2], [0x9723], [0x29145],
    [0x2921A]],
  listed 0x2F9F8 [[0x4A6E], [0x4A76], [0x97E0], [0x2940A], [0x4AB2], [0x29496], [0x980B], [0x980B]],
  listed 0x2FA00 [[0x9829], [0x295B6], [0x98E2], [0x4B33], [0x9929], [0x99A7], [0x99C2], [0x99FE]],
  listed 0x2FA08 [[0x4BCE], [0x29B30], [0x9B12], [0x9C40], [0x9CFD], [0x4CCE], [0x4CED], [0x9D67]],
  listed 0x2FA10 [[0x2A0CE], [0x4CF8], [0x2A105], [0x2A20E], [0x2A291], [0x9EBB], [0x4D56],
    [0x9EF9]],
  listed 0x2FA18 [[0x9EFE], [0x9F05], [0x9F0F], [0x9F16], [0x9F3B], [0x2A600]]]

/-- All decompositions of this part, ascending. -/
def entries : List Entry :=
  from105C9 ++ from1D6C1 ++ from1EE61 ++ from2F950

end ComicCatalogue.Unicode.Decomposition.Supplementary
