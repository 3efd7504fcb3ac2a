import ImageSensor.Register.Table

/-!
# Binned Table

Register values for 2104 by 1560 pixels, two by two binned,
at 30 frames per second on the 284 MHz link. The values hold for a 24 MHz reference clock
and four data lanes.
-/

namespace ImageSensor.Catalog

/-- The binned mode, two by two pixels into one. -/
def binnedTable : RegisterTable := .ofPairs [
  (0x0000, 0x0050), (0x0000, 0x30C6), (0x0A02, 0x3400), (0x3084, 0x1314), (0x3266, 0x0001),
  (0x3242, 0x2020), (0x306A, 0x2F4C), (0x306C, 0xCA01), (0x307A, 0x0D20), (0x309E, 0x002D),
  (0x3072, 0x0013), (0x3074, 0x0977), (0x3076, 0x9411), (0x3024, 0x0016), (0x3070, 0x3D00),
  (0x3002, 0x0E00), (0x3006, 0x1000), (0x300A, 0x0C00), (0x3010, 0x0400), (0x3018, 0xC500),
  (0x303A, 0x0204), (0x3452, 0x0001), (0x3454, 0x0001), (0x3456, 0x0001), (0x3458, 0x0001),
  (0x345A, 0x0002), (0x345C, 0x0014), (0x345E, 0x0002), (0x3460, 0x0014), (0x3464, 0x0006),
  (0x3466, 0x0012), (0x3468, 0x0012), (0x346A, 0x0012), (0x346C, 0x0012), (0x346E, 0x0012),
  (0x3470, 0x0012), (0x3472, 0x0008), (0x3474, 0x0004), (0x3476, 0x0044), (0x3478, 0x0004),
  (0x347A, 0x0044), (0x347E, 0x0006), (0x3480, 0x0010), (0x3482, 0x0010), (0x3484, 0x0010),
  (0x3486, 0x0010), (0x3488, 0x0010), (0x348A, 0x0010), (0x348E, 0x000C), (0x3490, 0x004C),
  (0x3492, 0x000C), (0x3494, 0x004C), (0x3496, 0x0020), (0x3498, 0x0006), (0x349A, 0x0008),
  (0x349C, 0x0008), (0x349E, 0x0008), (0x34A0, 0x0008), (0x34A2, 0x0008), (0x34A4, 0x0008),
  (0x34A8, 0x001A), (0x34AA, 0x002A), (0x34AC, 0x001A), (0x34AE, 0x002A), (0x34B0, 0x0080),
  (0x34B2, 0x0006), (0x32A2, 0x0000), (0x32A4, 0x0000), (0x32A6, 0x0000), (0x32A8, 0x0000),
  (0x3066, 0x7E00), (0x3004, 0x0800), (0x0344, 0x0008), (0x0346, 0x0008), (0x0348, 0x1077),
  (0x034A, 0x0C37), (0x034C, 0x0838), (0x034E, 0x0618), (0x0900, 0x0122), (0x0380, 0x0001),
  (0x0382, 0x0001), (0x0384, 0x0001), (0x0386, 0x0003), (0x0114, 0x0330), (0x0110, 0x0002),
  (0x0136, 0x1800), (0x0304, 0x0004), (0x0306, 0x0078), (0x3C1E, 0x0000), (0x030C, 0x0003),
  (0x030E, 0x0047), (0x3C16, 0x0001), (0x0300, 0x0006), (0x0342, 0x1320), (0x0340, 0x0CBC),
  (0x38C4, 0x0004), (0x38D8, 0x0011), (0x38DA, 0x0005), (0x38DC, 0x0005), (0x38C2, 0x0005),
  (0x38C0, 0x0004), (0x38D6, 0x0004), (0x38D4, 0x0004), (0x38B0, 0x0007), (0x3932, 0x1000),
  (0x3934, 0x0180), (0x3938, 0x000C), (0x0820, 0x0238), (0x380C, 0x0049), (0x3064, 0xFFCF),
  (0x309C, 0x0640), (0x3090, 0x8000), (0x3238, 0x000B), (0x314A, 0x5F02), (0x3300, 0x0000),
  (0x3400, 0x0000), (0x3402, 0x4E46), (0x32B2, 0x0008), (0x32B4, 0x0008), (0x32B6, 0x0008),
  (0x32B8, 0x0008), (0x3C34, 0x0048), (0x3C36, 0x3000), (0x3C38, 0x0020), (0x393E, 0x4000),
  (0x303A, 0x0204), (0x3034, 0x4B01), (0x3036, 0x0029), (0x3032, 0x4800), (0x320E, 0x049E),
  (0xFFFF, 0x0000)]

end ImageSensor.Catalog
