import FailOpen.Scenario.Symbols.Table

/-!
# Symbols of the mathematical library

The names that the library of mathematical functions exports, in alphabetical order.  They are not
found by who needs the C library alone.
-/

namespace FailOpen
namespace Scenario
namespace Symbols

/-- The names of the library of mathematical functions. -/
def math : SymbolTable :=
  [('_', ["__clog10", "__clog10f", "__clog10l", "__finite", "__finitef", "__finitef128",
      "__finitel", "__fpclassify", "__fpclassifyf", "__fpclassifyf128", "__fpclassifyl",
      "__iscanonicall", "__iseqsig", "__iseqsigf", "__iseqsigf128", "__iseqsigl",
      "__isinff128", "__issignaling", "__issignalingf", "__issignalingf128",
      "__issignalingl", "__signbit", "__signbitf", "__signbitf128", "__signbitl",
      "__signgam"]),
    ('a', ["acos", "acosf", "acosf128", "acosf32", "acosf32x", "acosf64", "acosf64x", "acosh",
      "acoshf", "acoshf128", "acoshf32", "acoshf32x", "acoshf64", "acoshf64x", "acoshl",
      "acosl", "asin", "asinf", "asinf128", "asinf32", "asinf32x", "asinf64", "asinf64x",
      "asinh", "asinhf", "asinhf128", "asinhf32", "asinhf32x", "asinhf64", "asinhf64x",
      "asinhl", "asinl", "atan", "atan2", "atan2f", "atan2f128", "atan2f32", "atan2f32x",
      "atan2f64", "atan2f64x", "atan2l", "atanf", "atanf128", "atanf32", "atanf32x",
      "atanf64", "atanf64x", "atanh", "atanhf", "atanhf128", "atanhf32", "atanhf32x",
      "atanhf64", "atanhf64x", "atanhl", "atanl"]),
    ('c', ["cabs", "cabsf", "cabsf128", "cabsf32", "cabsf32x", "cabsf64", "cabsf64x", "cabsl",
      "cacos", "cacosf", "cacosf128", "cacosf32", "cacosf32x", "cacosf64", "cacosf64x",
      "cacosh", "cacoshf", "cacoshf128", "cacoshf32", "cacoshf32x", "cacoshf64",
      "cacoshf64x", "cacoshl", "cacosl", "canonicalize", "canonicalizef",
      "canonicalizef128", "canonicalizef32", "canonicalizef32x", "canonicalizef64",
      "canonicalizef64x", "canonicalizel", "carg", "cargf", "cargf128", "cargf32",
      "cargf32x", "cargf64", "cargf64x", "cargl", "casin", "casinf", "casinf128",
      "casinf32", "casinf32x", "casinf64", "casinf64x", "casinh", "casinhf", "casinhf128",
      "casinhf32", "casinhf32x", "casinhf64", "casinhf64x", "casinhl", "casinl", "catan",
      "catanf", "catanf128", "catanf32", "catanf32x", "catanf64", "catanf64x", "catanh",
      "catanhf", "catanhf128", "catanhf32", "catanhf32x", "catanhf64", "catanhf64x",
      "catanhl", "catanl", "cbrt", "cbrtf", "cbrtf128", "cbrtf32", "cbrtf32x", "cbrtf64",
      "cbrtf64x", "cbrtl", "ccos", "ccosf", "ccosf128", "ccosf32", "ccosf32x", "ccosf64",
      "ccosf64x", "ccosh", "ccoshf", "ccoshf128", "ccoshf32", "ccoshf32x", "ccoshf64",
      "ccoshf64x", "ccoshl", "ccosl", "ceil", "ceilf", "ceilf128", "ceilf32", "ceilf32x",
      "ceilf64", "ceilf64x", "ceill", "cexp", "cexpf", "cexpf128", "cexpf32", "cexpf32x",
      "cexpf64", "cexpf64x", "cexpl", "cimag", "cimagf", "cimagf128", "cimagf32",
      "cimagf32x", "cimagf64", "cimagf64x", "cimagl", "clog", "clog10", "clog10f",
      "clog10f128", "clog10f32", "clog10f32x", "clog10f64", "clog10f64x", "clog10l",
      "clogf", "clogf128", "clogf32", "clogf32x", "clogf64", "clogf64x", "clogl", "conj",
      "conjf", "conjf128", "conjf32", "conjf32x", "conjf64", "conjf64x", "conjl",
      "copysign", "copysignf", "copysignf128", "copysignf32", "copysignf32x", "copysignf64",
      "copysignf64x", "copysignl", "cos", "cosf", "cosf128", "cosf32", "cosf32x", "cosf64",
      "cosf64x", "cosh", "coshf", "coshf128", "coshf32", "coshf32x", "coshf64", "coshf64x",
      "coshl", "cosl", "cpow", "cpowf", "cpowf128", "cpowf32", "cpowf32x", "cpowf64",
      "cpowf64x", "cpowl", "cproj", "cprojf", "cprojf128", "cprojf32", "cprojf32x",
      "cprojf64", "cprojf64x", "cprojl", "creal", "crealf", "crealf128", "crealf32",
      "crealf32x", "crealf64", "crealf64x", "creall", "csin", "csinf", "csinf128",
      "csinf32", "csinf32x", "csinf64", "csinf64x", "csinh", "csinhf", "csinhf128",
      "csinhf32", "csinhf32x", "csinhf64", "csinhf64x", "csinhl", "csinl", "csqrt",
      "csqrtf", "csqrtf128", "csqrtf32", "csqrtf32x", "csqrtf64", "csqrtf64x", "csqrtl",
      "ctan", "ctanf", "ctanf128", "ctanf32", "ctanf32x", "ctanf64", "ctanf64x", "ctanh",
      "ctanhf", "ctanhf128", "ctanhf32", "ctanhf32x", "ctanhf64", "ctanhf64x", "ctanhl",
      "ctanl"]),
    ('d', ["daddl", "ddivl", "dfmal", "dmull", "drem", "dremf", "dreml", "dsqrtl", "dsubl"]),
    ('e', ["erf", "erfc", "erfcf", "erfcf128", "erfcf32", "erfcf32x", "erfcf64", "erfcf64x",
      "erfcl", "erff", "erff128", "erff32", "erff32x", "erff64", "erff64x", "erfl", "exp",
      "exp10", "exp10f", "exp10f128", "exp10f32", "exp10f32x", "exp10f64", "exp10f64x",
      "exp10l", "exp2", "exp2f", "exp2f128", "exp2f32", "exp2f32x", "exp2f64", "exp2f64x",
      "exp2l", "expf", "expf128", "expf32", "expf32x", "expf64", "expf64x", "expl", "expm1",
      "expm1f", "expm1f128", "expm1f32", "expm1f32x", "expm1f64", "expm1f64x", "expm1l"]),
    ('f', ["f32addf128", "f32addf32x", "f32addf64", "f32addf64x", "f32divf128", "f32divf32x",
      "f32divf64", "f32divf64x", "f32fmaf128", "f32fmaf32x", "f32fmaf64", "f32fmaf64x",
      "f32mulf128", "f32mulf32x", "f32mulf64", "f32mulf64x", "f32sqrtf128", "f32sqrtf32x",
      "f32sqrtf64", "f32sqrtf64x", "f32subf128", "f32subf32x", "f32subf64", "f32subf64x",
      "f32xaddf128", "f32xaddf64", "f32xaddf64x", "f32xdivf128", "f32xdivf64",
      "f32xdivf64x", "f32xfmaf128", "f32xfmaf64", "f32xfmaf64x", "f32xmulf128",
      "f32xmulf64", "f32xmulf64x", "f32xsqrtf128", "f32xsqrtf64", "f32xsqrtf64x",
      "f32xsubf128", "f32xsubf64", "f32xsubf64x", "f64addf128", "f64addf64x", "f64divf128",
      "f64divf64x", "f64fmaf128", "f64fmaf64x", "f64mulf128", "f64mulf64x", "f64sqrtf128",
      "f64sqrtf64x", "f64subf128", "f64subf64x", "f64xaddf128", "f64xdivf128",
      "f64xfmaf128", "f64xmulf128", "f64xsqrtf128", "f64xsubf128", "fabs", "fabsf",
      "fabsf128", "fabsf32", "fabsf32x", "fabsf64", "fabsf64x", "fabsl", "fadd", "faddl",
      "fdim", "fdimf", "fdimf128", "fdimf32", "fdimf32x", "fdimf64", "fdimf64x", "fdiml",
      "fdiv", "fdivl", "feclearexcept", "fedisableexcept", "feenableexcept", "fegetenv",
      "fegetexcept", "fegetexceptflag", "fegetmode", "fegetround", "feholdexcept",
      "feraiseexcept", "fesetenv", "fesetexcept", "fesetexceptflag", "fesetmode",
      "fesetround", "fetestexcept", "fetestexceptflag", "feupdateenv", "ffma", "ffmal",
      "finite", "finitef", "finitel", "floor", "floorf", "floorf128", "floorf32",
      "floorf32x", "floorf64", "floorf64x", "floorl", "fma", "fmaf", "fmaf128", "fmaf32",
      "fmaf32x", "fmaf64", "fmaf64x", "fmal", "fmax", "fmaxf", "fmaxf128", "fmaxf32",
      "fmaxf32x", "fmaxf64", "fmaxf64x", "fmaximum", "fmaximum_mag", "fmaximum_mag_num",
      "fmaximum_mag_numf", "fmaximum_mag_numf128", "fmaximum_mag_numf32",
      "fmaximum_mag_numf32x", "fmaximum_mag_numf64", "fmaximum_mag_numf64x",
      "fmaximum_mag_numl", "fmaximum_magf", "fmaximum_magf128", "fmaximum_magf32",
      "fmaximum_magf32x", "fmaximum_magf64", "fmaximum_magf64x", "fmaximum_magl",
      "fmaximum_num", "fmaximum_numf", "fmaximum_numf128", "fmaximum_numf32",
      "fmaximum_numf32x", "fmaximum_numf64", "fmaximum_numf64x", "fmaximum_numl",
      "fmaximumf", "fmaximumf128", "fmaximumf32", "fmaximumf32x", "fmaximumf64",
      "fmaximumf64x", "fmaximuml", "fmaxl", "fmaxmag", "fmaxmagf", "fmaxmagf128",
      "fmaxmagf32", "fmaxmagf32x", "fmaxmagf64", "fmaxmagf64x", "fmaxmagl", "fmin", "fminf",
      "fminf128", "fminf32", "fminf32x", "fminf64", "fminf64x", "fminimum", "fminimum_mag",
      "fminimum_mag_num", "fminimum_mag_numf", "fminimum_mag_numf128",
      "fminimum_mag_numf32", "fminimum_mag_numf32x", "fminimum_mag_numf64",
      "fminimum_mag_numf64x", "fminimum_mag_numl", "fminimum_magf", "fminimum_magf128",
      "fminimum_magf32", "fminimum_magf32x", "fminimum_magf64", "fminimum_magf64x",
      "fminimum_magl", "fminimum_num", "fminimum_numf", "fminimum_numf128",
      "fminimum_numf32", "fminimum_numf32x", "fminimum_numf64", "fminimum_numf64x",
      "fminimum_numl", "fminimumf", "fminimumf128", "fminimumf32", "fminimumf32x",
      "fminimumf64", "fminimumf64x", "fminimuml", "fminl", "fminmag", "fminmagf",
      "fminmagf128", "fminmagf32", "fminmagf32x", "fminmagf64", "fminmagf64x", "fminmagl",
      "fmod", "fmodf", "fmodf128", "fmodf32", "fmodf32x", "fmodf64", "fmodf64x", "fmodl",
      "fmul", "fmull", "frexp", "frexpf", "frexpf128", "frexpf32", "frexpf32x", "frexpf64",
      "frexpf64x", "frexpl", "fromfp", "fromfpf", "fromfpf128", "fromfpf32", "fromfpf32x",
      "fromfpf64", "fromfpf64x", "fromfpl", "fromfpx", "fromfpxf", "fromfpxf128",
      "fromfpxf32", "fromfpxf32x", "fromfpxf64", "fromfpxf64x", "fromfpxl", "fsqrt",
      "fsqrtl", "fsub", "fsubl"]),
    ('g', ["gamma", "gammaf", "gammal", "getpayload", "getpayloadf", "getpayloadf128",
      "getpayloadf32", "getpayloadf32x", "getpayloadf64", "getpayloadf64x", "getpayloadl"]),
    ('h', ["hypot", "hypotf", "hypotf128", "hypotf32", "hypotf32x", "hypotf64", "hypotf64x",
      "hypotl"]),
    ('i', ["ilogb", "ilogbf", "ilogbf128", "ilogbf32", "ilogbf32x", "ilogbf64", "ilogbf64x",
      "ilogbl"]),
    ('j', ["j0", "j0f", "j0f128", "j0f32", "j0f32x", "j0f64", "j0f64x", "j0l", "j1", "j1f",
      "j1f128", "j1f32", "j1f32x", "j1f64", "j1f64x", "j1l", "jn", "jnf", "jnf128", "jnf32",
      "jnf32x", "jnf64", "jnf64x", "jnl"]),
    ('l', ["ldexp", "ldexpf", "ldexpf128", "ldexpf32", "ldexpf32x", "ldexpf64", "ldexpf64x",
      "ldexpl", "lgamma", "lgamma_r", "lgammaf", "lgammaf128", "lgammaf128_r", "lgammaf32",
      "lgammaf32_r", "lgammaf32x", "lgammaf32x_r", "lgammaf64", "lgammaf64_r", "lgammaf64x",
      "lgammaf64x_r", "lgammaf_r", "lgammal", "lgammal_r", "llogb", "llogbf", "llogbf128",
      "llogbf32", "llogbf32x", "llogbf64", "llogbf64x", "llogbl", "llrint", "llrintf",
      "llrintf128", "llrintf32", "llrintf32x", "llrintf64", "llrintf64x", "llrintl",
      "llround", "llroundf", "llroundf128", "llroundf32", "llroundf32x", "llroundf64",
      "llroundf64x", "llroundl", "log", "log10", "log10f", "log10f128", "log10f32",
      "log10f32x", "log10f64", "log10f64x", "log10l", "log1p", "log1pf", "log1pf128",
      "log1pf32", "log1pf32x", "log1pf64", "log1pf64x", "log1pl", "log2", "log2f",
      "log2f128", "log2f32", "log2f32x", "log2f64", "log2f64x", "log2l", "logb", "logbf",
      "logbf128", "logbf32", "logbf32x", "logbf64", "logbf64x", "logbl", "logf", "logf128",
      "logf32", "logf32x", "logf64", "logf64x", "logl", "lrint", "lrintf", "lrintf128",
      "lrintf32", "lrintf32x", "lrintf64", "lrintf64x", "lrintl", "lround", "lroundf",
      "lroundf128", "lroundf32", "lroundf32x", "lroundf64", "lroundf64x", "lroundl"]),
    ('m', ["modf", "modff", "modff128", "modff32", "modff32x", "modff64", "modff64x", "modfl"]),
    ('n', ["nan", "nanf", "nanf128", "nanf32", "nanf32x", "nanf64", "nanf64x", "nanl",
      "nearbyint", "nearbyintf", "nearbyintf128", "nearbyintf32", "nearbyintf32x",
      "nearbyintf64", "nearbyintf64x", "nearbyintl", "nextafter", "nextafterf",
      "nextafterf128", "nextafterf32", "nextafterf32x", "nextafterf64", "nextafterf64x",
      "nextafterl", "nextdown", "nextdownf", "nextdownf128", "nextdownf32", "nextdownf32x",
      "nextdownf64", "nextdownf64x", "nextdownl", "nexttoward", "nexttowardf",
      "nexttowardl", "nextup", "nextupf", "nextupf128", "nextupf32", "nextupf32x",
      "nextupf64", "nextupf64x", "nextupl"]),
    ('p', ["pow", "powf", "powf128", "powf32", "powf32x", "powf64", "powf64x", "powl"]),
    ('r', ["remainder", "remainderf", "remainderf128", "remainderf32", "remainderf32x",
      "remainderf64", "remainderf64x", "remainderl", "remquo", "remquof", "remquof128",
      "remquof32", "remquof32x", "remquof64", "remquof64x", "remquol", "rint", "rintf",
      "rintf128", "rintf32", "rintf32x", "rintf64", "rintf64x", "rintl", "round",
      "roundeven", "roundevenf", "roundevenf128", "roundevenf32", "roundevenf32x",
      "roundevenf64", "roundevenf64x", "roundevenl", "roundf", "roundf128", "roundf32",
      "roundf32x", "roundf64", "roundf64x", "roundl"]),
    ('s', ["scalb", "scalbf", "scalbl", "scalbln", "scalblnf", "scalblnf128", "scalblnf32",
      "scalblnf32x", "scalblnf64", "scalblnf64x", "scalblnl", "scalbn", "scalbnf",
      "scalbnf128", "scalbnf32", "scalbnf32x", "scalbnf64", "scalbnf64x", "scalbnl",
      "setpayload", "setpayloadf", "setpayloadf128", "setpayloadf32", "setpayloadf32x",
      "setpayloadf64", "setpayloadf64x", "setpayloadl", "setpayloadsig", "setpayloadsigf",
      "setpayloadsigf128", "setpayloadsigf32", "setpayloadsigf32x", "setpayloadsigf64",
      "setpayloadsigf64x", "setpayloadsigl", "signgam", "significand", "significandf",
      "significandl", "sin", "sincos", "sincosf", "sincosf128", "sincosf32", "sincosf32x",
      "sincosf64", "sincosf64x", "sincosl", "sinf", "sinf128", "sinf32", "sinf32x",
      "sinf64", "sinf64x", "sinh", "sinhf", "sinhf128", "sinhf32", "sinhf32x", "sinhf64",
      "sinhf64x", "sinhl", "sinl", "sqrt", "sqrtf", "sqrtf128", "sqrtf32", "sqrtf32x",
      "sqrtf64", "sqrtf64x", "sqrtl"]),
    ('t', ["tan", "tanf", "tanf128", "tanf32", "tanf32x", "tanf64", "tanf64x", "tanh", "tanhf",
      "tanhf128", "tanhf32", "tanhf32x", "tanhf64", "tanhf64x", "tanhl", "tanl", "tgamma",
      "tgammaf", "tgammaf128", "tgammaf32", "tgammaf32x", "tgammaf64", "tgammaf64x",
      "tgammal", "totalorder", "totalorderf", "totalorderf128", "totalorderf32",
      "totalorderf32x", "totalorderf64", "totalorderf64x", "totalorderl", "totalordermag",
      "totalordermagf", "totalordermagf128", "totalordermagf32", "totalordermagf32x",
      "totalordermagf64", "totalordermagf64x", "totalordermagl", "trunc", "truncf",
      "truncf128", "truncf32", "truncf32x", "truncf64", "truncf64x", "truncl"]),
    ('u', ["ufromfp", "ufromfpf", "ufromfpf128", "ufromfpf32", "ufromfpf32x", "ufromfpf64",
      "ufromfpf64x", "ufromfpl", "ufromfpx", "ufromfpxf", "ufromfpxf128", "ufromfpxf32",
      "ufromfpxf32x", "ufromfpxf64", "ufromfpxf64x", "ufromfpxl"]),
    ('y', ["y0", "y0f", "y0f128", "y0f32", "y0f32x", "y0f64", "y0f64x", "y0l", "y1", "y1f",
      "y1f128", "y1f32", "y1f32x", "y1f64", "y1f64x", "y1l", "yn", "ynf", "ynf128", "ynf32",
      "ynf32x", "ynf64", "ynf64x", "ynl"])]

end Symbols
end Scenario
end FailOpen
