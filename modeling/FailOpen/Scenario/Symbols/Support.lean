import FailOpen.Scenario.Symbols.Table

/-!
# Symbols of smaller libraries

The names that the smaller libraries of a scenario's system export, each list in alphabetical order.
Of the library behind classes and exceptions only the plain names are listed, and not those that
spell out types.
-/

namespace FailOpen
namespace Scenario
namespace Symbols

/-- The names of the loader itself. -/
def loading : SymbolTable :=
  [('_', ["__libc_enable_secure", "__libc_stack_end", "__nptl_change_stack_perm",
      "__nptl_initial_report_events", "__rseq_flags", "__rseq_offset", "__rseq_size",
      "__tls_get_addr", "__tunable_get_val", "__tunable_is_initialized", "_dl_allocate_tls",
      "_dl_allocate_tls_init", "_dl_argv", "_dl_audit_preinit", "_dl_audit_symbind_alt",
      "_dl_catch_exception", "_dl_deallocate_tls", "_dl_debug_state",
      "_dl_exception_create", "_dl_exception_create_format", "_dl_exception_free",
      "_dl_fatal_printf", "_dl_find_dso_for_object", "_dl_get_tls_static_info",
      "_dl_mcount", "_dl_rtld_di_serinfo", "_dl_signal_error", "_dl_signal_exception",
      "_dl_x86_get_cpu_features", "_r_debug", "_rtld_global", "_rtld_global_ro"])]

/-- The names of the code that the kernel lends to every process. -/
def lent : SymbolTable :=
  [('_', ["__vdso_clock_getres", "__vdso_clock_gettime", "__vdso_getcpu", "__vdso_gettimeofday",
      "__vdso_time"]),
    ('c', ["clock_getres", "clock_gettime"]),
    ('g', ["getcpu", "gettimeofday"]),
    ('t', ["time"])]

/-- The names of the library that unwinds the stack and helps with wide arithmetic. -/
def unwinding : SymbolTable :=
  [('_', ["_Unwind_Backtrace", "_Unwind_DeleteException", "_Unwind_FindEnclosingFunction",
      "_Unwind_Find_FDE", "_Unwind_ForcedUnwind", "_Unwind_GetCFA",
      "_Unwind_GetDataRelBase", "_Unwind_GetGR", "_Unwind_GetIP", "_Unwind_GetIPInfo",
      "_Unwind_GetLanguageSpecificData", "_Unwind_GetRegionStart", "_Unwind_GetTextRelBase",
      "_Unwind_RaiseException", "_Unwind_Resume", "_Unwind_Resume_or_Rethrow",
      "_Unwind_SetGR", "_Unwind_SetIP", "__absvdi2", "__absvsi2", "__absvti2", "__addtf3",
      "__addvdi3", "__addvsi3", "__addvti3", "__ashlti3", "__ashrti3", "__bswapdi2",
      "__bswapsi2", "__clear_cache", "__clrsbdi2", "__clrsbti2", "__clzdi2", "__clzti2",
      "__cmpti2", "__ctzdi2", "__ctzti2", "__deregister_frame", "__deregister_frame_info",
      "__deregister_frame_info_bases", "__divdc3", "__divhc3", "__divmodbitint4",
      "__divmodti4", "__divsc3", "__divtc3", "__divtf3", "__divti3", "__divxc3",
      "__emutls_get_address", "__emutls_register_common", "__enable_execute_stack",
      "__eqhf2", "__eqtf2", "__extendbfsf2", "__extenddftf2", "__extendhfdf2",
      "__extendhfsf2", "__extendhftf2", "__extendhfxf2", "__extendsfdf2", "__extendsftf2",
      "__extendxftf2", "__ffsdi2", "__ffsti2", "__fixdfbitint", "__fixdfti", "__fixhfti",
      "__fixsfbitint", "__fixsfti", "__fixtfbitint", "__fixtfdi", "__fixtfsi", "__fixtfti",
      "__fixunsdfdi", "__fixunsdfti", "__fixunshfti", "__fixunssfdi", "__fixunssfti",
      "__fixunstfdi", "__fixunstfsi", "__fixunstfti", "__fixunsxfdi", "__fixunsxfti",
      "__fixxfbitint", "__fixxfti", "__floatbitintbf", "__floatbitintdf", "__floatbitinthf",
      "__floatbitintsf", "__floatbitinttf", "__floatbitintxf", "__floatditf", "__floatsitf",
      "__floattibf", "__floattidf", "__floattihf", "__floattisf", "__floattitf",
      "__floattixf", "__floatunditf", "__floatunsitf", "__floatuntibf", "__floatuntidf",
      "__floatuntihf", "__floatuntisf", "__floatuntitf", "__floatuntixf",
      "__gcc_nested_func_ptr_created", "__gcc_nested_func_ptr_deleted",
      "__gcc_personality_v0", "__getf2", "__gttf2", "__hardcfr_check", "__letf2",
      "__lshrti3", "__lttf2", "__modti3", "__mulbitint3", "__muldc3", "__mulhc3",
      "__mulsc3", "__multc3", "__multf3", "__multi3", "__mulvdi3", "__mulvsi3", "__mulvti3",
      "__mulxc3", "__negtf2", "__negti2", "__negvdi2", "__negvsi2", "__negvti2", "__nehf2",
      "__netf2", "__paritydi2", "__parityti2", "__popcountdi2", "__popcountti2",
      "__powidf2", "__powisf2", "__powitf2", "__powixf2", "__register_frame",
      "__register_frame_info", "__register_frame_info_bases", "__register_frame_info_table",
      "__register_frame_info_table_bases", "__register_frame_table", "__strub_enter",
      "__strub_leave", "__strub_update", "__subtf3", "__subvdi3", "__subvsi3", "__subvti3",
      "__truncdfbf2", "__truncdfhf2", "__truncdfsf2", "__trunchfbf2", "__truncsfbf2",
      "__truncsfhf2", "__trunctfbf2", "__trunctfdf2", "__trunctfhf2", "__trunctfsf2",
      "__trunctfxf2", "__truncxfbf2", "__truncxfhf2", "__ucmpti2", "__udivmodti4",
      "__udivti3", "__umodti3", "__unordtf2"])]

/-- The names of the library that resolves host names. -/
def resolving : SymbolTable :=
  [('_', ["__b64_ntop", "__b64_pton", "__dn_count_labels", "__fp_nquery", "__fp_query",
      "__fp_resstat", "__hostalias", "__loc_aton", "__loc_ntoa", "__ns_get16", "__ns_get32",
      "__p_cdname", "__p_cdnname", "__p_class", "__p_class_syms", "__p_fqname",
      "__p_fqnname", "__p_option", "__p_query", "__p_rcode", "__p_time", "__p_type",
      "__p_type_syms", "__putlong", "__putshort", "__res_close", "__res_hostalias",
      "__res_isourserver", "__res_nameinquery", "__res_queriesmatch", "__sym_ntop",
      "__sym_ntos", "__sym_ston", "_getlong", "_getshort", "_res_opcodes"]),
    ('i', ["inet_net_ntop", "inet_net_pton", "inet_neta"]),
    ('n', ["ns_datetosecs", "ns_format_ttl", "ns_get16", "ns_get32", "ns_initparse",
      "ns_makecanon", "ns_msg_getflag", "ns_name_ntol", "ns_name_rollback", "ns_parse_ttl",
      "ns_parserr", "ns_put16", "ns_put32", "ns_samedomain", "ns_samename", "ns_skiprr",
      "ns_sprintrr", "ns_sprintrrf", "ns_subdomain"])]

/-- The names of the library that hashes passwords. -/
def hashing : SymbolTable :=
  [('c', ["crypt", "crypt_checksalt", "crypt_gensalt", "crypt_gensalt_ra", "crypt_gensalt_rn",
      "crypt_preferred_method", "crypt_r", "crypt_ra", "crypt_rn"])]

/-- The names of the library that compresses data. -/
def compressing : SymbolTable :=
  [('a', ["adler32", "adler32_combine", "adler32_combine64", "adler32_z"]),
    ('c', ["compress", "compress2", "compressBound", "crc32", "crc32_combine", "crc32_combine64",
      "crc32_combine_gen", "crc32_combine_gen64", "crc32_combine_op", "crc32_z"]),
    ('d', ["deflate", "deflateBound", "deflateCopy", "deflateEnd", "deflateGetDictionary",
      "deflateInit2_", "deflateInit_", "deflateParams", "deflatePending", "deflatePrime",
      "deflateReset", "deflateResetKeep", "deflateSetDictionary", "deflateSetHeader",
      "deflateTune"]),
    ('g', ["get_crc_table", "gzbuffer", "gzclearerr", "gzclose", "gzclose_r", "gzclose_w",
      "gzdirect", "gzdopen", "gzeof", "gzerror", "gzflush", "gzfread", "gzfwrite", "gzgetc",
      "gzgetc_", "gzgets", "gzoffset", "gzoffset64", "gzopen", "gzopen64", "gzprintf",
      "gzputc", "gzputs", "gzread", "gzrewind", "gzseek", "gzseek64", "gzsetparams",
      "gztell", "gztell64", "gzungetc", "gzvprintf", "gzwrite"]),
    ('i', ["inflate", "inflateBack", "inflateBackEnd", "inflateBackInit_", "inflateCodesUsed",
      "inflateCopy", "inflateEnd", "inflateGetDictionary", "inflateGetHeader",
      "inflateInit2_", "inflateInit_", "inflateMark", "inflatePrime", "inflateReset",
      "inflateReset2", "inflateResetKeep", "inflateSetDictionary", "inflateSync",
      "inflateSyncPoint", "inflateUndermine", "inflateValidate"]),
    ('u', ["uncompress", "uncompress2"]),
    ('z', ["zError", "zlibCompileFlags", "zlibVersion"])]

/-- The plain names of the library behind classes and exceptions. -/
def exceptions : SymbolTable :=
  [('_', ["__atomic_flag_for_address", "__atomic_flag_wait_explicit",
      "__cxa_allocate_dependent_exception", "__cxa_allocate_exception", "__cxa_bad_cast",
      "__cxa_bad_typeid", "__cxa_begin_catch", "__cxa_call_terminate",
      "__cxa_call_unexpected", "__cxa_current_exception_type", "__cxa_deleted_virtual",
      "__cxa_demangle", "__cxa_end_catch", "__cxa_free_dependent_exception",
      "__cxa_free_exception", "__cxa_get_exception_ptr", "__cxa_get_globals",
      "__cxa_get_globals_fast", "__cxa_guard_abort", "__cxa_guard_acquire",
      "__cxa_guard_release", "__cxa_init_primary_exception", "__cxa_pure_virtual",
      "__cxa_rethrow", "__cxa_thread_atexit", "__cxa_throw", "__cxa_throw_bad_array_length",
      "__cxa_throw_bad_array_new_length", "__cxa_tm_cleanup", "__cxa_vec_cctor",
      "__cxa_vec_cleanup", "__cxa_vec_ctor", "__cxa_vec_delete", "__cxa_vec_delete2",
      "__cxa_vec_delete3", "__cxa_vec_dtor", "__cxa_vec_new", "__cxa_vec_new2",
      "__cxa_vec_new3", "__dynamic_cast", "__gxx_personality_v0", "__once_proxy"]),
    ('a', ["atomic_flag_clear_explicit", "atomic_flag_test_and_set_explicit"])]

end Symbols
end Scenario
end FailOpen
