import ComicCatalogue.Unicode.Decomposition.Entry

/-!
# Decompositions: presentation forms

The full compatibility decompositions of compatibility ideographs and presentation forms, U+F900 to
U+FFFF.
-/

namespace ComicCatalogue.Unicode.Decomposition.Presentation

open Decomposition (shifted listed)

/-- Decompositions from U+F900 to U+FB6D. -/
def fromF900 : List Entry := [
  listed 0xF900 [[0x8C48], [0x66F4], [0x8ECA], [0x8CC8], [0x6ED1], [0x4E32], [0x53E5], [0x9F9C]],
  listed 0xF908 [[0x9F9C], [0x5951], [0x91D1], [0x5587], [0x5948], [0x61F6], [0x7669], [0x7F85]],
  listed 0xF910 [[0x863F], [0x87BA], [0x88F8], [0x908F], [0x6A02], [0x6D1B], [0x70D9], [0x73DE]],
  listed 0xF918 [[0x843D], [0x916A], [0x99F1], [0x4E82], [0x5375], [0x6B04], [0x721B], [0x862D]],
  listed 0xF920 [[0x9E1E], [0x5D50], [0x6FEB], [0x85CD], [0x8964], [0x62C9], [0x81D8], [0x881F]],
  listed 0xF928 [[0x5ECA], [0x6717], [0x6D6A], [0x72FC], [0x90CE], [0x4F86], [0x51B7], [0x52DE]],
  listed 0xF930 [[0x64C4], [0x6AD3], [0x7210], [0x76E7], [0x8001], [0x8606], [0x865C], [0x8DEF]],
  listed 0xF938 [[0x9732], [0x9B6F], [0x9DFA], [0x788C], [0x797F], [0x7DA0], [0x83C9], [0x9304]],
  listed 0xF940 [[0x9E7F], [0x8AD6], [0x58DF], [0x5F04], [0x7C60], [0x807E], [0x7262], [0x78CA]],
  listed 0xF948 [[0x8CC2], [0x96F7], [0x58D8], [0x5C62], [0x6A13], [0x6DDA], [0x6F0F], [0x7D2F]],
  listed 0xF950 [[0x7E37], [0x964B], [0x52D2], [0x808B], [0x51DC], [0x51CC], [0x7A1C], [0x7DBE]],
  listed 0xF958 [[0x83F1], [0x9675], [0x8B80], [0x62CF], [0x6A02], [0x8AFE], [0x4E39], [0x5BE7]],
  listed 0xF960 [[0x6012], [0x7387], [0x7570], [0x5317], [0x78FB], [0x4FBF], [0x5FA9], [0x4E0D]],
  listed 0xF968 [[0x6CCC], [0x6578], [0x7D22], [0x53C3], [0x585E], [0x7701], [0x8449], [0x8AAA]],
  listed 0xF970 [[0x6BBA], [0x8FB0], [0x6C88], [0x62FE], [0x82E5], [0x63A0], [0x7565], [0x4EAE]],
  listed 0xF978 [[0x5169], [0x51C9], [0x6881], [0x7CE7], [0x826F], [0x8AD2], [0x91CF], [0x52F5]],
  listed 0xF980 [[0x5442], [0x5973], [0x5EEC], [0x65C5], [0x6FFE], [0x792A], [0x95AD], [0x9A6A]],
  listed 0xF988 [[0x9E97], [0x9ECE], [0x529B], [0x66C6], [0x6B77], [0x8F62], [0x5E74], [0x6190]],
  listed 0xF990 [[0x6200], [0x649A], [0x6F23], [0x7149], [0x7489], [0x79CA], [0x7DF4], [0x806F]],
  listed 0xF998 [[0x8F26], [0x84EE], [0x9023], [0x934A], [0x5217], [0x52A3], [0x54BD], [0x70C8]],
  listed 0xF9A0 [[0x88C2], [0x8AAA], [0x5EC9], [0x5FF5], [0x637B], [0x6BAE], [0x7C3E], [0x7375]],
  listed 0xF9A8 [[0x4EE4], [0x56F9], [0x5BE7], [0x5DBA], [0x601C], [0x73B2], [0x7469], [0x7F9A]],
  listed 0xF9B0 [[0x8046], [0x9234], [0x96F6], [0x9748], [0x9818], [0x4F8B], [0x79AE], [0x91B4]],
  listed 0xF9B8 [[0x96B8], [0x60E1], [0x4E86], [0x50DA], [0x5BEE], [0x5C3F], [0x6599], [0x6A02]],
  listed 0xF9C0 [[0x71CE], [0x7642], [0x84FC], [0x907C], [0x9F8D], [0x6688], [0x962E], [0x5289]],
  listed 0xF9C8 [[0x677B], [0x67F3], [0x6D41], [0x6E9C], [0x7409], [0x7559], [0x786B], [0x7D10]],
  listed 0xF9D0 [[0x985E], [0x516D], [0x622E], [0x9678], [0x502B], [0x5D19], [0x6DEA], [0x8F2A]],
  listed 0xF9D8 [[0x5F8B], [0x6144], [0x6817], [0x7387], [0x9686], [0x5229], [0x540F], [0x5C65]],
  listed 0xF9E0 [[0x6613], [0x674E], [0x68A8], [0x6CE5], [0x7406], [0x75E2], [0x7F79], [0x88CF]],
  listed 0xF9E8 [[0x88E1], [0x91CC], [0x96E2], [0x533F], [0x6EBA], [0x541D], [0x71D0], [0x7498]],
  listed 0xF9F0 [[0x85FA], [0x96A3], [0x9C57], [0x9E9F], [0x6797], [0x6DCB], [0x81E8], [0x7ACB]],
  listed 0xF9F8 [[0x7B20], [0x7C92], [0x72C0], [0x7099], [0x8B58], [0x4EC0], [0x8336], [0x523A]],
  listed 0xFA00 [[0x5207], [0x5EA6], [0x62D3], [0x7CD6], [0x5B85], [0x6D1E], [0x66B4], [0x8F3B]],
  listed 0xFA08 [[0x884C], [0x964D], [0x898B], [0x5ED3], [0x5140], [0x55C0]],
  listed 0xFA10 [[0x585A]],
  listed 0xFA12 [[0x6674]],
  listed 0xFA15 [[0x51DE], [0x732A], [0x76CA], [0x793C], [0x795E], [0x7965], [0x798F], [0x9756]],
  listed 0xFA1D [[0x7CBE], [0x7FBD]],
  listed 0xFA20 [[0x8612]],
  listed 0xFA22 [[0x8AF8]],
  listed 0xFA25 [[0x9038], [0x90FD]],
  listed 0xFA2A [[0x98EF], [0x98FC], [0x9928], [0x9DB4], [0x90DE], [0x96B7], [0x4FAE], [0x50E7]],
  listed 0xFA32 [[0x514D], [0x52C9], [0x52E4], [0x5351], [0x559D], [0x5606], [0x5668], [0x5840]],
  listed 0xFA3A [[0x58A8], [0x5C64], [0x5C6E], [0x6094], [0x6168], [0x618E], [0x61F2], [0x654F]],
  listed 0xFA42 [[0x65E2], [0x6691], [0x6885], [0x6D77], [0x6E1A], [0x6F22], [0x716E], [0x722B]],
  listed 0xFA4A [[0x7422], [0x7891], [0x793E], [0x7949], [0x7948], [0x7950], [0x7956], [0x795D]],
  listed 0xFA52 [[0x798D], [0x798E], [0x7A40], [0x7A81], [0x7BC0], [0x7DF4], [0x7E09], [0x7E41]],
  listed 0xFA5A [[0x7F72], [0x8005], [0x81ED], [0x8279], [0x8279], [0x8457], [0x8910], [0x8996]],
  listed 0xFA62 [[0x8B01], [0x8B39], [0x8CD3], [0x8D08], [0x8FB6], [0x9038], [0x96E3], [0x97FF]],
  listed 0xFA6A [[0x983B], [0x6075], [0x242EE], [0x8218]],
  listed 0xFA70 [[0x4E26], [0x51B5], [0x5168], [0x4F80], [0x5145], [0x5180], [0x52C7], [0x52FA]],
  listed 0xFA78 [[0x559D], [0x5555], [0x5599], [0x55E2], [0x585A], [0x58B3], [0x5944], [0x5954]],
  listed 0xFA80 [[0x5A62], [0x5B28], [0x5ED2], [0x5ED9], [0x5F69], [0x5FAD], [0x60D8], [0x614E]],
  listed 0xFA88 [[0x6108], [0x618E], [0x6160], [0x61F2], [0x6234], [0x63C4], [0x641C], [0x6452]],
  listed 0xFA90 [[0x6556], [0x6674], [0x6717], [0x671B], [0x6756], [0x6B79], [0x6BBA], [0x6D41]],
  listed 0xFA98 [[0x6EDB], [0x6ECB], [0x6F22], [0x701E], [0x716E], [0x77A7], [0x7235], [0x72AF]],
  listed 0xFAA0 [[0x732A], [0x7471], [0x7506], [0x753B], [0x761D], [0x761F], [0x76CA], [0x76DB]],
  listed 0xFAA8 [[0x76F4], [0x774A], [0x7740], [0x78CC], [0x7AB1], [0x7BC0], [0x7C7B], [0x7D5B]],
  listed 0xFAB0 [[0x7DF4], [0x7F3E], [0x8005], [0x8352], [0x83EF], [0x8779], [0x8941], [0x8986]],
  listed 0xFAB8 [[0x8996], [0x8ABF], [0x8AF8], [0x8ACB], [0x8B01], [0x8AFE], [0x8AED], [0x8B39]],
  listed 0xFAC0 [[0x8B8A], [0x8D08], [0x8F38], [0x9072], [0x9199], [0x9276], [0x967C], [0x96E3]],
  listed 0xFAC8 [[0x9756], [0x97DB], [0x97FF], [0x980B], [0x983B], [0x9B12], [0x9F9C], [0x2284A]],
  listed 0xFAD0 [[0x22844], [0x233D5], [0x3B9D], [0x4018], [0x4039], [0x25249], [0x25CD0],
    [0x27ED3]],
  listed 0xFAD8 [[0x9F43], [0x9F8E]],
  listed 0xFB00 [[0x0066, 0x0066], [0x0066, 0x0069], [0x0066, 0x006C], [0x0066, 0x0066, 0x0069],
    [0x0066, 0x0066, 0x006C], [0x0073, 0x0074], [0x0073, 0x0074]],
  listed 0xFB13 [[0x0574, 0x0576], [0x0574, 0x0565], [0x0574, 0x056B], [0x057E, 0x0576],
    [0x0574, 0x056D]],
  listed 0xFB1D [[0x05D9, 0x05B4]],
  listed 0xFB1F [[0x05F2, 0x05B7], [0x05E2], [0x05D0], [0x05D3], [0x05D4]],
  shifted 0xFB24 0xFB26 0x05DB,
  listed 0xFB27 [[0x05E8], [0x05EA], [0x002B], [0x05E9, 0x05C1], [0x05E9, 0x05C2],
    [0x05E9, 0x05BC, 0x05C1], [0x05E9, 0x05BC, 0x05C2], [0x05D0, 0x05B7]],
  listed 0xFB2F [[0x05D0, 0x05B8], [0x05D0, 0x05BC], [0x05D1, 0x05BC], [0x05D2, 0x05BC],
    [0x05D3, 0x05BC], [0x05D4, 0x05BC], [0x05D5, 0x05BC], [0x05D6, 0x05BC]],
  listed 0xFB38 [[0x05D8, 0x05BC], [0x05D9, 0x05BC], [0x05DA, 0x05BC], [0x05DB, 0x05BC],
    [0x05DC, 0x05BC]],
  listed 0xFB3E [[0x05DE, 0x05BC]],
  listed 0xFB40 [[0x05E0, 0x05BC], [0x05E1, 0x05BC]],
  listed 0xFB43 [[0x05E3, 0x05BC], [0x05E4, 0x05BC]],
  listed 0xFB46 [[0x05E6, 0x05BC], [0x05E7, 0x05BC], [0x05E8, 0x05BC], [0x05E9, 0x05BC],
    [0x05EA, 0x05BC], [0x05D5, 0x05B9], [0x05D1, 0x05BF], [0x05DB, 0x05BF]],
  listed 0xFB4E [[0x05E4, 0x05BF], [0x05D0, 0x05DC], [0x0671], [0x0671], [0x067B], [0x067B],
    [0x067B], [0x067B]],
  listed 0xFB56 [[0x067E], [0x067E], [0x067E], [0x067E], [0x0680], [0x0680], [0x0680], [0x0680]],
  listed 0xFB5E [[0x067A], [0x067A], [0x067A], [0x067A], [0x067F], [0x067F], [0x067F], [0x067F]],
  listed 0xFB66 [[0x0679], [0x0679], [0x0679], [0x0679], [0x06A4], [0x06A4], [0x06A4], [0x06A4]]]

/-- Decompositions from U+FB6E to U+FD5F. -/
def fromFB6E : List Entry := [
  listed 0xFB6E [[0x06A6], [0x06A6], [0x06A6], [0x06A6], [0x0684], [0x0684], [0x0684], [0x0684]],
  listed 0xFB76 [[0x0683], [0x0683], [0x0683], [0x0683], [0x0686], [0x0686], [0x0686], [0x0686]],
  listed 0xFB7E [[0x0687], [0x0687], [0x0687], [0x0687], [0x068D], [0x068D], [0x068C], [0x068C]],
  listed 0xFB86 [[0x068E], [0x068E], [0x0688], [0x0688], [0x0698], [0x0698], [0x0691], [0x0691]],
  listed 0xFB8E [[0x06A9], [0x06A9], [0x06A9], [0x06A9], [0x06AF], [0x06AF], [0x06AF], [0x06AF]],
  listed 0xFB96 [[0x06B3], [0x06B3], [0x06B3], [0x06B3], [0x06B1], [0x06B1], [0x06B1], [0x06B1]],
  listed 0xFB9E [[0x06BA], [0x06BA], [0x06BB], [0x06BB], [0x06BB], [0x06BB], [0x06D5, 0x0654],
    [0x06D5, 0x0654]],
  listed 0xFBA6 [[0x06C1], [0x06C1], [0x06C1], [0x06C1], [0x06BE], [0x06BE], [0x06BE], [0x06BE]],
  listed 0xFBAE [[0x06D2], [0x06D2], [0x06D2, 0x0654], [0x06D2, 0x0654]],
  listed 0xFBD3 [[0x06AD], [0x06AD], [0x06AD], [0x06AD], [0x06C7], [0x06C7], [0x06C6], [0x06C6]],
  listed 0xFBDB [[0x06C8], [0x06C8], [0x06C7, 0x0674], [0x06CB], [0x06CB], [0x06C5], [0x06C5],
    [0x06C9]],
  listed 0xFBE3 [[0x06C9], [0x06D0], [0x06D0], [0x06D0], [0x06D0], [0x0649], [0x0649],
    [0x064A, 0x0654, 0x0627]],
  listed 0xFBEB [[0x064A, 0x0654, 0x0627], [0x064A, 0x0654, 0x06D5], [0x064A, 0x0654, 0x06D5],
    [0x064A, 0x0654, 0x0648], [0x064A, 0x0654, 0x0648], [0x064A, 0x0654, 0x06C7],
    [0x064A, 0x0654, 0x06C7], [0x064A, 0x0654, 0x06C6]],
  listed 0xFBF3 [[0x064A, 0x0654, 0x06C6], [0x064A, 0x0654, 0x06C8], [0x064A, 0x0654, 0x06C8],
    [0x064A, 0x0654, 0x06D0], [0x064A, 0x0654, 0x06D0], [0x064A, 0x0654, 0x06D0],
    [0x064A, 0x0654, 0x0649], [0x064A, 0x0654, 0x0649]],
  listed 0xFBFB [[0x064A, 0x0654, 0x0649], [0x06CC], [0x06CC], [0x06CC], [0x06CC],
    [0x064A, 0x0654, 0x062C], [0x064A, 0x0654, 0x062D], [0x064A, 0x0654, 0x0645]],
  listed 0xFC03 [[0x064A, 0x0654, 0x0649], [0x064A, 0x0654, 0x064A], [0x0628, 0x062C],
    [0x0628, 0x062D], [0x0628, 0x062E], [0x0628, 0x0645], [0x0628, 0x0649], [0x0628, 0x064A]],
  listed 0xFC0B [[0x062A, 0x062C], [0x062A, 0x062D], [0x062A, 0x062E], [0x062A, 0x0645],
    [0x062A, 0x0649], [0x062A, 0x064A], [0x062B, 0x062C], [0x062B, 0x0645]],
  listed 0xFC13 [[0x062B, 0x0649], [0x062B, 0x064A], [0x062C, 0x062D], [0x062C, 0x0645],
    [0x062D, 0x062C], [0x062D, 0x0645], [0x062E, 0x062C], [0x062E, 0x062D]],
  listed 0xFC1B [[0x062E, 0x0645], [0x0633, 0x062C], [0x0633, 0x062D], [0x0633, 0x062E],
    [0x0633, 0x0645], [0x0635, 0x062D], [0x0635, 0x0645], [0x0636, 0x062C]],
  listed 0xFC23 [[0x0636, 0x062D], [0x0636, 0x062E], [0x0636, 0x0645], [0x0637, 0x062D],
    [0x0637, 0x0645], [0x0638, 0x0645], [0x0639, 0x062C], [0x0639, 0x0645]],
  listed 0xFC2B [[0x063A, 0x062C], [0x063A, 0x0645], [0x0641, 0x062C], [0x0641, 0x062D],
    [0x0641, 0x062E], [0x0641, 0x0645], [0x0641, 0x0649], [0x0641, 0x064A]],
  listed 0xFC33 [[0x0642, 0x062D], [0x0642, 0x0645], [0x0642, 0x0649], [0x0642, 0x064A],
    [0x0643, 0x0627], [0x0643, 0x062C], [0x0643, 0x062D], [0x0643, 0x062E]],
  listed 0xFC3B [[0x0643, 0x0644], [0x0643, 0x0645], [0x0643, 0x0649], [0x0643, 0x064A],
    [0x0644, 0x062C], [0x0644, 0x062D], [0x0644, 0x062E], [0x0644, 0x0645]],
  listed 0xFC43 [[0x0644, 0x0649], [0x0644, 0x064A], [0x0645, 0x062C], [0x0645, 0x062D],
    [0x0645, 0x062E], [0x0645, 0x0645], [0x0645, 0x0649], [0x0645, 0x064A]],
  listed 0xFC4B [[0x0646, 0x062C], [0x0646, 0x062D], [0x0646, 0x062E], [0x0646, 0x0645],
    [0x0646, 0x0649], [0x0646, 0x064A], [0x0647, 0x062C], [0x0647, 0x0645]],
  listed 0xFC53 [[0x0647, 0x0649], [0x0647, 0x064A], [0x064A, 0x062C], [0x064A, 0x062D],
    [0x064A, 0x062E], [0x064A, 0x0645], [0x064A, 0x0649], [0x064A, 0x064A]],
  listed 0xFC5B [[0x0630, 0x0670], [0x0631, 0x0670], [0x0649, 0x0670], [0x0020, 0x064C, 0x0651],
    [0x0020, 0x064D, 0x0651], [0x0020, 0x064E, 0x0651], [0x0020, 0x064F, 0x0651],
    [0x0020, 0x0650, 0x0651]],
  listed 0xFC63 [[0x0020, 0x0651, 0x0670], [0x064A, 0x0654, 0x0631], [0x064A, 0x0654, 0x0632],
    [0x064A, 0x0654, 0x0645], [0x064A, 0x0654, 0x0646], [0x064A, 0x0654, 0x0649],
    [0x064A, 0x0654, 0x064A], [0x0628, 0x0631]],
  listed 0xFC6B [[0x0628, 0x0632], [0x0628, 0x0645], [0x0628, 0x0646], [0x0628, 0x0649],
    [0x0628, 0x064A], [0x062A, 0x0631], [0x062A, 0x0632], [0x062A, 0x0645]],
  listed 0xFC73 [[0x062A, 0x0646], [0x062A, 0x0649], [0x062A, 0x064A], [0x062B, 0x0631],
    [0x062B, 0x0632], [0x062B, 0x0645], [0x062B, 0x0646], [0x062B, 0x0649]],
  listed 0xFC7B [[0x062B, 0x064A], [0x0641, 0x0649], [0x0641, 0x064A], [0x0642, 0x0649],
    [0x0642, 0x064A], [0x0643, 0x0627], [0x0643, 0x0644], [0x0643, 0x0645]],
  listed 0xFC83 [[0x0643, 0x0649], [0x0643, 0x064A], [0x0644, 0x0645], [0x0644, 0x0649],
    [0x0644, 0x064A], [0x0645, 0x0627], [0x0645, 0x0645], [0x0646, 0x0631]],
  listed 0xFC8B [[0x0646, 0x0632], [0x0646, 0x0645], [0x0646, 0x0646], [0x0646, 0x0649],
    [0x0646, 0x064A], [0x0649, 0x0670], [0x064A, 0x0631], [0x064A, 0x0632]],
  listed 0xFC93 [[0x064A, 0x0645], [0x064A, 0x0646], [0x064A, 0x0649], [0x064A, 0x064A],
    [0x064A, 0x0654, 0x062C], [0x064A, 0x0654, 0x062D], [0x064A, 0x0654, 0x062E],
    [0x064A, 0x0654, 0x0645]],
  listed 0xFC9B [[0x064A, 0x0654, 0x0647], [0x0628, 0x062C], [0x0628, 0x062D], [0x0628, 0x062E],
    [0x0628, 0x0645], [0x0628, 0x0647], [0x062A, 0x062C], [0x062A, 0x062D]],
  listed 0xFCA3 [[0x062A, 0x062E], [0x062A, 0x0645], [0x062A, 0x0647], [0x062B, 0x0645],
    [0x062C, 0x062D], [0x062C, 0x0645], [0x062D, 0x062C], [0x062D, 0x0645]],
  listed 0xFCAB [[0x062E, 0x062C], [0x062E, 0x0645], [0x0633, 0x062C], [0x0633, 0x062D],
    [0x0633, 0x062E], [0x0633, 0x0645], [0x0635, 0x062D], [0x0635, 0x062E]],
  listed 0xFCB3 [[0x0635, 0x0645], [0x0636, 0x062C], [0x0636, 0x062D], [0x0636, 0x062E],
    [0x0636, 0x0645], [0x0637, 0x062D], [0x0638, 0x0645], [0x0639, 0x062C]],
  listed 0xFCBB [[0x0639, 0x0645], [0x063A, 0x062C], [0x063A, 0x0645], [0x0641, 0x062C],
    [0x0641, 0x062D], [0x0641, 0x062E], [0x0641, 0x0645], [0x0642, 0x062D]],
  listed 0xFCC3 [[0x0642, 0x0645], [0x0643, 0x062C], [0x0643, 0x062D], [0x0643, 0x062E],
    [0x0643, 0x0644], [0x0643, 0x0645], [0x0644, 0x062C], [0x0644, 0x062D]],
  listed 0xFCCB [[0x0644, 0x062E], [0x0644, 0x0645], [0x0644, 0x0647], [0x0645, 0x062C],
    [0x0645, 0x062D], [0x0645, 0x062E], [0x0645, 0x0645], [0x0646, 0x062C]],
  listed 0xFCD3 [[0x0646, 0x062D], [0x0646, 0x062E], [0x0646, 0x0645], [0x0646, 0x0647],
    [0x0647, 0x062C], [0x0647, 0x0645], [0x0647, 0x0670], [0x064A, 0x062C]],
  listed 0xFCDB [[0x064A, 0x062D], [0x064A, 0x062E], [0x064A, 0x0645], [0x064A, 0x0647],
    [0x064A, 0x0654, 0x0645], [0x064A, 0x0654, 0x0647], [0x0628, 0x0645], [0x0628, 0x0647]],
  listed 0xFCE3 [[0x062A, 0x0645], [0x062A, 0x0647], [0x062B, 0x0645], [0x062B, 0x0647],
    [0x0633, 0x0645], [0x0633, 0x0647], [0x0634, 0x0645], [0x0634, 0x0647]],
  listed 0xFCEB [[0x0643, 0x0644], [0x0643, 0x0645], [0x0644, 0x0645], [0x0646, 0x0645],
    [0x0646, 0x0647], [0x064A, 0x0645], [0x064A, 0x0647], [0x0640, 0x064E, 0x0651]],
  listed 0xFCF3 [[0x0640, 0x064F, 0x0651], [0x0640, 0x0650, 0x0651], [0x0637, 0x0649],
    [0x0637, 0x064A], [0x0639, 0x0649], [0x0639, 0x064A], [0x063A, 0x0649], [0x063A, 0x064A]],
  listed 0xFCFB [[0x0633, 0x0649], [0x0633, 0x064A], [0x0634, 0x0649], [0x0634, 0x064A],
    [0x062D, 0x0649], [0x062D, 0x064A], [0x062C, 0x0649], [0x062C, 0x064A]],
  listed 0xFD03 [[0x062E, 0x0649], [0x062E, 0x064A], [0x0635, 0x0649], [0x0635, 0x064A],
    [0x0636, 0x0649], [0x0636, 0x064A], [0x0634, 0x062C], [0x0634, 0x062D]],
  listed 0xFD0B [[0x0634, 0x062E], [0x0634, 0x0645], [0x0634, 0x0631], [0x0633, 0x0631],
    [0x0635, 0x0631], [0x0636, 0x0631], [0x0637, 0x0649], [0x0637, 0x064A]],
  listed 0xFD13 [[0x0639, 0x0649], [0x0639, 0x064A], [0x063A, 0x0649], [0x063A, 0x064A],
    [0x0633, 0x0649], [0x0633, 0x064A], [0x0634, 0x0649], [0x0634, 0x064A]],
  listed 0xFD1B [[0x062D, 0x0649], [0x062D, 0x064A], [0x062C, 0x0649], [0x062C, 0x064A],
    [0x062E, 0x0649], [0x062E, 0x064A], [0x0635, 0x0649], [0x0635, 0x064A]],
  listed 0xFD23 [[0x0636, 0x0649], [0x0636, 0x064A], [0x0634, 0x062C], [0x0634, 0x062D],
    [0x0634, 0x062E], [0x0634, 0x0645], [0x0634, 0x0631], [0x0633, 0x0631]],
  listed 0xFD2B [[0x0635, 0x0631], [0x0636, 0x0631], [0x0634, 0x062C], [0x0634, 0x062D],
    [0x0634, 0x062E], [0x0634, 0x0645], [0x0633, 0x0647], [0x0634, 0x0647]],
  listed 0xFD33 [[0x0637, 0x0645], [0x0633, 0x062C], [0x0633, 0x062D], [0x0633, 0x062E],
    [0x0634, 0x062C], [0x0634, 0x062D], [0x0634, 0x062E], [0x0637, 0x0645]],
  listed 0xFD3B [[0x0638, 0x0645], [0x0627, 0x064B], [0x0627, 0x064B]],
  listed 0xFD50 [[0x062A, 0x062C, 0x0645], [0x062A, 0x062D, 0x062C], [0x062A, 0x062D, 0x062C],
    [0x062A, 0x062D, 0x0645], [0x062A, 0x062E, 0x0645], [0x062A, 0x0645, 0x062C],
    [0x062A, 0x0645, 0x062D], [0x062A, 0x0645, 0x062E]],
  listed 0xFD58 [[0x062C, 0x0645, 0x062D], [0x062C, 0x0645, 0x062D], [0x062D, 0x0645, 0x064A],
    [0x062D, 0x0645, 0x0649], [0x0633, 0x062D, 0x062C], [0x0633, 0x062C, 0x062D],
    [0x0633, 0x062C, 0x0649], [0x0633, 0x0645, 0x062D]]]

/-- Decompositions from U+FD60 to U+FFEC. -/
def fromFD60 : List Entry := [
  listed 0xFD60 [[0x0633, 0x0645, 0x062D], [0x0633, 0x0645, 0x062C], [0x0633, 0x0645, 0x0645],
    [0x0633, 0x0645, 0x0645], [0x0635, 0x062D, 0x062D], [0x0635, 0x062D, 0x062D],
    [0x0635, 0x0645, 0x0645], [0x0634, 0x062D, 0x0645]],
  listed 0xFD68 [[0x0634, 0x062D, 0x0645], [0x0634, 0x062C, 0x064A], [0x0634, 0x0645, 0x062E],
    [0x0634, 0x0645, 0x062E], [0x0634, 0x0645, 0x0645], [0x0634, 0x0645, 0x0645],
    [0x0636, 0x062D, 0x0649], [0x0636, 0x062E, 0x0645]],
  listed 0xFD70 [[0x0636, 0x062E, 0x0645], [0x0637, 0x0645, 0x062D], [0x0637, 0x0645, 0x062D],
    [0x0637, 0x0645, 0x0645], [0x0637, 0x0645, 0x064A], [0x0639, 0x062C, 0x0645],
    [0x0639, 0x0645, 0x0645], [0x0639, 0x0645, 0x0645]],
  listed 0xFD78 [[0x0639, 0x0645, 0x0649], [0x063A, 0x0645, 0x0645], [0x063A, 0x0645, 0x064A],
    [0x063A, 0x0645, 0x0649], [0x0641, 0x062E, 0x0645], [0x0641, 0x062E, 0x0645],
    [0x0642, 0x0645, 0x062D], [0x0642, 0x0645, 0x0645]],
  listed 0xFD80 [[0x0644, 0x062D, 0x0645], [0x0644, 0x062D, 0x064A], [0x0644, 0x062D, 0x0649],
    [0x0644, 0x062C, 0x062C], [0x0644, 0x062C, 0x062C], [0x0644, 0x062E, 0x0645],
    [0x0644, 0x062E, 0x0645], [0x0644, 0x0645, 0x062D]],
  listed 0xFD88 [[0x0644, 0x0645, 0x062D], [0x0645, 0x062D, 0x062C], [0x0645, 0x062D, 0x0645],
    [0x0645, 0x062D, 0x064A], [0x0645, 0x062C, 0x062D], [0x0645, 0x062C, 0x0645],
    [0x0645, 0x062E, 0x062C], [0x0645, 0x062E, 0x0645]],
  listed 0xFD92 [[0x0645, 0x062C, 0x062E], [0x0647, 0x0645, 0x062C], [0x0647, 0x0645, 0x0645],
    [0x0646, 0x062D, 0x0645], [0x0646, 0x062D, 0x0649], [0x0646, 0x062C, 0x0645],
    [0x0646, 0x062C, 0x0645], [0x0646, 0x062C, 0x0649]],
  listed 0xFD9A [[0x0646, 0x0645, 0x064A], [0x0646, 0x0645, 0x0649], [0x064A, 0x0645, 0x0645],
    [0x064A, 0x0645, 0x0645], [0x0628, 0x062E, 0x064A], [0x062A, 0x062C, 0x064A],
    [0x062A, 0x062C, 0x0649], [0x062A, 0x062E, 0x064A]],
  listed 0xFDA2 [[0x062A, 0x062E, 0x0649], [0x062A, 0x0645, 0x064A], [0x062A, 0x0645, 0x0649],
    [0x062C, 0x0645, 0x064A], [0x062C, 0x062D, 0x0649], [0x062C, 0x0645, 0x0649],
    [0x0633, 0x062E, 0x0649], [0x0635, 0x062D, 0x064A]],
  listed 0xFDAA [[0x0634, 0x062D, 0x064A], [0x0636, 0x062D, 0x064A], [0x0644, 0x062C, 0x064A],
    [0x0644, 0x0645, 0x064A], [0x064A, 0x062D, 0x064A], [0x064A, 0x062C, 0x064A],
    [0x064A, 0x0645, 0x064A], [0x0645, 0x0645, 0x064A]],
  listed 0xFDB2 [[0x0642, 0x0645, 0x064A], [0x0646, 0x062D, 0x064A], [0x0642, 0x0645, 0x062D],
    [0x0644, 0x062D, 0x0645], [0x0639, 0x0645, 0x064A], [0x0643, 0x0645, 0x064A],
    [0x0646, 0x062C, 0x062D], [0x0645, 0x062E, 0x064A]],
  listed 0xFDBA [[0x0644, 0x062C, 0x0645], [0x0643, 0x0645, 0x0645], [0x0644, 0x062C, 0x0645],
    [0x0646, 0x062C, 0x062D], [0x062C, 0x062D, 0x064A], [0x062D, 0x062C, 0x064A],
    [0x0645, 0x062C, 0x064A], [0x0641, 0x0645, 0x064A]],
  listed 0xFDC2 [[0x0628, 0x062D, 0x064A], [0x0643, 0x0645, 0x0645], [0x0639, 0x062C, 0x0645],
    [0x0635, 0x0645, 0x0645], [0x0633, 0x062E, 0x064A], [0x0646, 0x062C, 0x064A]],
  listed 0xFDF0 [[0x0635, 0x0644, 0x06D2], [0x0642, 0x0644, 0x06D2],
    [0x0627, 0x0644, 0x0644, 0x0647], [0x0627, 0x0643, 0x0628, 0x0631],
    [0x0645, 0x062D, 0x0645, 0x062F], [0x0635, 0x0644, 0x0639, 0x0645],
    [0x0631, 0x0633, 0x0648, 0x0644], [0x0639, 0x0644, 0x064A, 0x0647]],
  listed 0xFDF8 [[0x0648, 0x0633, 0x0644, 0x0645], [0x0635, 0x0644, 0x0649],
    [0x0635, 0x0644, 0x0649, 0x0020, 0x0627, 0x0644, 0x0644, 0x0647, 0x0020, 0x0639, 0x0644, 0x064A, 0x0647, 0x0020, 0x0648, 0x0633, 0x0644, 0x0645],
    [0x062C, 0x0644, 0x0020, 0x062C, 0x0644, 0x0627, 0x0644, 0x0647],
    [0x0631, 0x06CC, 0x0627, 0x0644]],
  listed 0xFE10 [[0x002C], [0x3001], [0x3002], [0x003A], [0x003B], [0x0021], [0x003F], [0x3016]],
  listed 0xFE18 [[0x3017], [0x002E, 0x002E, 0x002E]],
  listed 0xFE30 [[0x002E, 0x002E], [0x2014], [0x2013], [0x005F], [0x005F], [0x0028], [0x0029],
    [0x007B]],
  listed 0xFE38 [[0x007D], [0x3014], [0x3015], [0x3010], [0x3011], [0x300A], [0x300B], [0x3008]],
  listed 0xFE40 [[0x3009]],
  shifted 0xFE41 0xFE44 0x300C,
  listed 0xFE47 [[0x005B], [0x005D], [0x0020, 0x0305], [0x0020, 0x0305], [0x0020, 0x0305],
    [0x0020, 0x0305], [0x005F], [0x005F]],
  listed 0xFE4F [[0x005F], [0x002C], [0x3001], [0x002E]],
  listed 0xFE54 [[0x003B], [0x003A], [0x003F], [0x0021], [0x2014], [0x0028], [0x0029], [0x007B]],
  listed 0xFE5C [[0x007D], [0x3014], [0x3015], [0x0023], [0x0026], [0x002A], [0x002B], [0x002D]],
  listed 0xFE64 [[0x003C], [0x003E], [0x003D]],
  listed 0xFE68 [[0x005C], [0x0024], [0x0025], [0x0040]],
  listed 0xFE70 [[0x0020, 0x064B], [0x0640, 0x064B], [0x0020, 0x064C]],
  listed 0xFE74 [[0x0020, 0x064D]],
  listed 0xFE76 [[0x0020, 0x064E], [0x0640, 0x064E], [0x0020, 0x064F], [0x0640, 0x064F],
    [0x0020, 0x0650], [0x0640, 0x0650], [0x0020, 0x0651], [0x0640, 0x0651]],
  listed 0xFE7E [[0x0020, 0x0652], [0x0640, 0x0652], [0x0621], [0x0627, 0x0653], [0x0627, 0x0653],
    [0x0627, 0x0654], [0x0627, 0x0654], [0x0648, 0x0654]],
  listed 0xFE86 [[0x0648, 0x0654], [0x0627, 0x0655], [0x0627, 0x0655], [0x064A, 0x0654],
    [0x064A, 0x0654], [0x064A, 0x0654], [0x064A, 0x0654], [0x0627]],
  listed 0xFE8E [[0x0627], [0x0628], [0x0628], [0x0628], [0x0628], [0x0629], [0x0629], [0x062A]],
  listed 0xFE96 [[0x062A], [0x062A], [0x062A], [0x062B], [0x062B], [0x062B], [0x062B], [0x062C]],
  listed 0xFE9E [[0x062C], [0x062C], [0x062C], [0x062D], [0x062D], [0x062D], [0x062D], [0x062E]],
  listed 0xFEA6 [[0x062E], [0x062E], [0x062E], [0x062F], [0x062F], [0x0630], [0x0630], [0x0631]],
  listed 0xFEAE [[0x0631], [0x0632], [0x0632], [0x0633], [0x0633], [0x0633], [0x0633], [0x0634]],
  listed 0xFEB6 [[0x0634], [0x0634], [0x0634], [0x0635], [0x0635], [0x0635], [0x0635], [0x0636]],
  listed 0xFEBE [[0x0636], [0x0636], [0x0636], [0x0637], [0x0637], [0x0637], [0x0637], [0x0638]],
  listed 0xFEC6 [[0x0638], [0x0638], [0x0638], [0x0639], [0x0639], [0x0639], [0x0639], [0x063A]],
  listed 0xFECE [[0x063A], [0x063A], [0x063A], [0x0641], [0x0641], [0x0641], [0x0641], [0x0642]],
  listed 0xFED6 [[0x0642], [0x0642], [0x0642], [0x0643], [0x0643], [0x0643], [0x0643], [0x0644]],
  listed 0xFEDE [[0x0644], [0x0644], [0x0644], [0x0645], [0x0645], [0x0645], [0x0645], [0x0646]],
  listed 0xFEE6 [[0x0646], [0x0646], [0x0646], [0x0647], [0x0647], [0x0647], [0x0647], [0x0648]],
  listed 0xFEEE [[0x0648], [0x0649], [0x0649], [0x064A], [0x064A], [0x064A], [0x064A],
    [0x0644, 0x0627, 0x0653]],
  listed 0xFEF6 [[0x0644, 0x0627, 0x0653], [0x0644, 0x0627, 0x0654], [0x0644, 0x0627, 0x0654],
    [0x0644, 0x0627, 0x0655], [0x0644, 0x0627, 0x0655], [0x0644, 0x0627], [0x0644, 0x0627]],
  shifted 0xFF01 0xFF5E 0x0021,
  listed 0xFF5F [[0x2985], [0x2986], [0x3002], [0x300C], [0x300D], [0x3001], [0x30FB], [0x30F2]],
  listed 0xFF67 [[0x30A1], [0x30A3], [0x30A5], [0x30A7], [0x30A9], [0x30E3], [0x30E5], [0x30E7]],
  listed 0xFF6F [[0x30C3], [0x30FC], [0x30A2], [0x30A4], [0x30A6], [0x30A8], [0x30AA], [0x30AB]],
  listed 0xFF77 [[0x30AD], [0x30AF], [0x30B1], [0x30B3], [0x30B5], [0x30B7], [0x30B9], [0x30BB]],
  listed 0xFF7F [[0x30BD], [0x30BF], [0x30C1], [0x30C4], [0x30C6], [0x30C8]],
  shifted 0xFF85 0xFF8A 0x30CA,
  listed 0xFF8B [[0x30D2], [0x30D5], [0x30D8], [0x30DB]],
  shifted 0xFF8F 0xFF93 0x30DE,
  listed 0xFF94 [[0x30E4], [0x30E6]],
  shifted 0xFF96 0xFF9B 0x30E8,
  listed 0xFF9C [[0x30EF], [0x30F3], [0x3099], [0x309A], [0x1160], [0x1100], [0x1101], [0x11AA]],
  listed 0xFFA4 [[0x1102], [0x11AC], [0x11AD]],
  shifted 0xFFA7 0xFFA9 0x1103,
  shifted 0xFFAA 0xFFAF 0x11B0,
  listed 0xFFB0 [[0x111A]],
  shifted 0xFFB1 0xFFB3 0x1106,
  listed 0xFFB4 [[0x1121]],
  shifted 0xFFB5 0xFFBE 0x1109,
  shifted 0xFFC2 0xFFC7 0x1161,
  shifted 0xFFCA 0xFFCF 0x1167,
  shifted 0xFFD2 0xFFD7 0x116D,
  shifted 0xFFDA 0xFFDC 0x1173,
  listed 0xFFE0 [[0x00A2], [0x00A3], [0x00AC], [0x0020, 0x0304], [0x00A6], [0x00A5], [0x20A9]],
  listed 0xFFE8 [[0x2502]],
  shifted 0xFFE9 0xFFEC 0x2190]

/-- Decompositions from U+FFED to U+FFEE. -/
def fromFFED : List Entry := [
  listed 0xFFED [[0x25A0], [0x25CB]]]

/-- All decompositions of this part, ascending. -/
def entries : List Entry :=
  fromF900 ++ fromFB6E ++ fromFD60 ++ fromFFED

end ComicCatalogue.Unicode.Decomposition.Presentation
